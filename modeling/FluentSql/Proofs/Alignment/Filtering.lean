import FluentSql.Proofs.Alignment.Embedding

/-!
# `Alignment.Filtering` — conditions added to two statements alike

A call that filters rows is compared with its inlined form. The receivers do not matter: both calls
append conditions, as many on both sides, and the values bound by the first belong to the markers of
the conditions that it appends.

## Contents
- `Alike`, two statements that grow by the same conditions, and steps one after the other.
- Comparisons, groups, and lists of equalities and of triples.
- `Call.alike_apply`, for every call that filters rows.
-/

namespace FluentSql

open Statement

/-- The first statement grows by conditions that bind values, the second by conditions that track them
    and bind nothing. -/
def Alike (usage : Usage) (lit : Literals) (q q' p : Statement) (r : Except Error Statement) : Prop :=
  ∃ criteria criteria' values values', q' = q.filtered criteria values ∧
    r = .ok (p.filtered criteria' values') ∧ Value.withoutRaw values' = [] ∧
    InOrder (CriterionTwin usage lit) (Value.withoutRaw values) criteria criteria'

variable {usage : Usage} {lit : Literals} {q q' p : Statement} {connector : Connector}

namespace Alike

theorem refl (q p : Statement) : Alike usage lit q q p (.ok p) :=
  ⟨[], [], [], [], q.filtered_nil.symm, congrArg _ p.filtered_nil.symm, rfl, .nil⟩

/-- One step after the other. -/
theorem bind {q₁ : Statement} {r : Except Error Statement} {f : Statement → Except Error Statement}
    (h : Alike usage lit q q₁ p r) (h' : ∀ p₁, Alike usage lit q₁ q' p₁ (f p₁)) :
    Alike usage lit q q' p (r >>= f) := by
  obtain ⟨cs, cs', vs, vs', rfl, rfl, hraw, hcs⟩ := h
  -- the second step is compared for every receiver, so also for the one that the first step gives
  obtain ⟨ds, ds', ws, ws', rfl, hf, hraw', hds⟩ := h' (p.filtered cs' vs')
  refine ⟨cs ++ ds, cs' ++ ds', vs ++ ws, vs' ++ ws', filtered_filtered .., ?_, ?_, ?_⟩
  · rw [← filtered_filtered]; exact hf
  · rw [Value.withoutRaw_append, hraw, hraw']; rfl
  · rw [Value.withoutRaw_append]; exact hcs.append hds

/-- A loop over related lists. -/
theorem foldlM {α β : Type} {R : α → β → Prop} {f : Statement → α → Except Error Statement}
    {g : Statement → β → Except Error Statement} {xs : List α} {ys : List β}
    (hstep : ∀ q q' p x y, R x y → f q x = .ok q' → Alike usage lit q q' p (g p y))
    (hxy : List.Forall₂ R xs ys) (h : xs.foldlM f q = .ok q') :
    Alike usage lit q q' p (ys.foldlM g p) := by
  induction hxy generalizing q p with
  | nil =>
    obtain rfl : q = q' := Except.ok.inj h
    exact .refl q p
  | @cons x y xs ys hhead _ ih =>
    rw [List.foldlM_cons] at h ⊢
    obtain ⟨q₁, h₁, h⟩ := bind_eq_ok.mp h
    exact (hstep q q₁ p x y hhead h₁).bind fun _ => ih h

/-- One condition. -/
theorem addWhere {predicate predicate' : Predicate} {values values' : List Value}
    (h : ∀ d : Dialect, d.QuestionMarked → Tracks usage lit (Value.withoutRaw values)
      (d.predicateText predicate) (d.predicateText predicate'))
    (hvalues : Value.withoutRaw values' = []) :
    Alike usage lit q (q.addWhere connector predicate values) p
      (.ok (p.addWhere connector predicate' values')) :=
  ⟨[⟨connector, predicate⟩], [⟨connector, predicate'⟩], values, values', rfl, rfl, hvalues,
    .singleton ⟨rfl, h⟩⟩

/-- What was added makes a group. -/
theorem groupTwin {setting setting' : Setting} {g g' : Statement}
    (h : Alike usage lit (fresh setting) g (fresh setting') (.ok g')) : GroupTwin usage lit g g' := by
  obtain ⟨cs, cs', vs, vs', rfl, hg', hraw, hcs⟩ := h
  obtain rfl := Except.ok.inj hg'
  exact ⟨Bindings.rawFree_empty.extend .filter vs, hraw, hcs⟩

end Alike

/-! ## Comparisons -/

theorem Value.isRaw_inline (v : Value) : (v.inline lit).isRaw = true := by
  cases v <;> rfl

theorem Value.withoutRaw_inline (v : Value) : Value.withoutRaw [v.inline lit] = [] := by
  simp [Value.withoutRaw, Value.isRaw_inline]

/-- A column with words after it, negated or not. -/
theorem unmarked_negated {d : Dialect} (hd : d.QuestionMarked) {column : Reference}
    (hcolumn : column.Unmarked) (negated : Bool) {before after : String}
    (hbefore : Text.Unmarked before) (hafter : Text.Unmarked after) :
    Text.Unmarked (d.quoteColumn column ++ before ++ Dialect.negation negated ++ after) := by
  refine .append (.append (.append (hd.quoteColumn hcolumn) hbefore) ?_) hafter
  cases negated <;> decide

theorem alike_compareNull {column : Reference} {operator : String} (hcolumn : column.Unmarked)
    (h : q.compareNull connector column operator = .ok q') :
    Alike usage lit q q' p (p.compareNull connector column operator) := by
  have hcheck : ∀ negated, Alike usage lit q (q.addWhere connector (.nullCheck column negated) []) p
      (.ok (p.addWhere connector (.nullCheck column negated) [])) := by
    refine fun negated => .addWhere (fun d hd => .of_fills (.of_unmarked ?_)) rfl
    exact unmarked_negated hd hcolumn negated (by decide) (by decide)
  unfold compareNull at h ⊢
  by_cases hequal : operator = "="
  · rw [if_pos hequal] at h ⊢
    rw [← Except.ok.inj h]
    exact hcheck false
  by_cases hunequal : operator = "!=" ∨ operator = "<>"
  · rw [if_neg hequal, if_pos hunequal] at h ⊢
    rw [← Except.ok.inj h]
    exact hcheck true
  · rw [if_neg hequal, if_neg hunequal] at h
    cases h

/-- The text of a comparison. -/
theorem fills_comparison {d : Dialect} (hd : d.QuestionMarked) {column : Reference}
    {operator : String} {v : Value} (hcolumn : column.Unmarked) (hoperator : Text.Unmarked operator)
    (hv : v.Unmarked) :
    Fills lit (Value.withoutRaw [v])
      (d.quoteColumn column ++ " " ++ operator ++ " " ++ d.placeholder v)
      (d.quoteColumn column ++ " " ++ operator ++ " " ++ d.placeholder (v.inline lit)) := by
  refine (fills_placeholder hd hv).prepend ?_
  exact .append (.append (.append (hd.quoteColumn hcolumn) (by decide)) hoperator) (by decide)

/-- A value other than null. -/
theorem alike_comparison {column : Reference} {operator : String} {v : Value}
    (hcolumn : column.Unmarked) (hoperator : Text.Unmarked operator) (hv : v.Unmarked) :
    Alike usage lit q (q.addWhere connector (.comparison column operator v) [v]) p
      (.ok (p.addWhere connector (.comparison column operator (v.inline lit)) [v.inline lit])) :=
  .addWhere (fun _ hd => .of_fills (fills_comparison hd hcolumn hoperator hv))
    (Value.withoutRaw_inline v)

/-- **A column and an operand.** -/
theorem alike_compareOperand {column : Reference} {operator : String} {operand operand' : Operand}
    (hcolumn : column.Unmarked) (hoperator : Text.Unmarked operator)
    (hoperand : OperandTwin usage lit operand operand') (hgood : operand.Unmarked)
    (h : q.compareOperand connector column operator operand = .ok q') :
    Alike usage lit q q' p (p.compareOperand connector column operator (operand'.inline lit)) := by
  cases hoperand with
  | list values => cases h
  | query hquery =>
    rw [← Except.ok.inj h]
    refine .addWhere (fun d hd => ?_) (by rw [hquery.bound]; rfl)
    rw [Statement.bound, hquery.rawFree.withoutRaw_flatten]
    refine (hquery.text d hd).map fun us s t hst => ?_
    refine (hst.prepend ?_).append_unmarked (by decide)
    exact .append (.append (.append (hd.quoteColumn hcolumn) (by decide)) hoperator) (by decide)
  | value v =>
    cases v with
    -- null is compared by a check that binds nothing, and inlining leaves it null
    | null => exact alike_compareNull hcolumn h
    | _ =>
      rw [← Except.ok.inj h]
      exact alike_comparison hcolumn hoperator hgood

/-- Operator and operand that are meant stay the same when they are inlined. -/
theorem resolveComparison_inline {column : Reference} {operator : Option String}
    {operand operand' : Option Operand}
    (hoperand : Option.Rel (fun o o' => OperandTwin usage lit o o' ∧ o.Unmarked) operand operand')
    {meant : String × Operand} (h : resolveComparison column operator operand = .ok meant) :
    Text.Unmarked meant.1 ∧ meant.2.Unmarked ∧ ∃ o', OperandTwin usage lit meant.2 o' ∧
      resolveComparison column (inlineComparison lit operator operand').1
        (inlineComparison lit operator operand').2 = .ok (meant.1, o'.inline lit) := by
  have hequal : Text.Unmarked "=" := by decide
  cases operator with
  -- one argument is the operand of an equality; two are operator and operand, unless the first is not
  -- an operator and the second is dropped
  | none =>
    cases hoperand with
    | none => cases h
    | some ho =>
      obtain rfl := Except.ok.inj h
      exact ⟨hequal, ho.2, _, ho.1, rfl⟩
  | some text =>
    cases hoperand with
    | none =>
      obtain rfl := Except.ok.inj h
      exact ⟨hequal, trivial, .value (.text text), .value _, rfl⟩
    | some ho =>
      simp only [resolveComparison] at h
      split at h
      · next hoperator =>
        obtain rfl := Except.ok.inj h
        refine ⟨unmarked_of_isOperator hoperator, ho.2, _, ho.1, ?_⟩
        simp only [inlineComparison, if_pos hoperator, resolveComparison]
      · next hoperator =>
        obtain rfl := Except.ok.inj h
        refine ⟨hequal, trivial, .value (.text text), .value _, ?_⟩
        simp only [inlineComparison, if_neg hoperator]
        rfl

theorem alike_compare {column : Reference} {operator : Option String}
    {operand operand' : Option Operand} (hcolumn : column.Unmarked)
    (hoperand : Option.Rel (fun o o' => OperandTwin usage lit o o' ∧ o.Unmarked) operand operand')
    (h : q.compare connector column operator operand = .ok q') :
    Alike usage lit q q' p (p.compare connector column (inlineComparison lit operator operand').1
      (inlineComparison lit operator operand').2) := by
  obtain ⟨meant, hmeant, h⟩ := bind_eq_ok.mp h
  obtain ⟨hoperator, hgood, o', ho', hinline⟩ := resolveComparison_inline hoperand hmeant
  rw [Statement.compare, hinline]
  exact alike_compareOperand hcolumn hoperator ho' hgood h

/-! ## Groups, equalities and triples -/

theorem alike_whereGroup {e e' : Statement} (h : GroupTwin usage lit e e') :
    Alike usage lit q (q.whereGroup connector e) p (.ok (p.whereGroup connector e')) := by
  rw [whereGroup, whereGroup, ← h.wheres.isEmpty_eq]
  split
  · exact .refl q p
  · refine .addWhere (fun d hd => ?_) ?_
    · rw [h.rawFree .filter]
      exact group_tracks hd h.wheres
    · rw [show e'.bindings.get .filter = [] from h.bound]
      rfl

theorem alike_whereEqualities {pairs pairs' : List (String × Operand)}
    (hpairs : List.Forall₂ (fun pair pair' => pair'.1 = pair.1 ∧ Text.Unmarked pair.1 ∧
      OperandTwin usage lit pair.2 pair'.2 ∧ pair.2.Unmarked) pairs pairs')
    (h : q.whereEqualities pairs = .ok q') :
    Alike usage lit q q' p
      (p.whereEqualities (pairs'.map fun pair => (pair.1, pair.2.inline lit))) := by
  rw [whereEqualities, List.foldlM_map]
  refine Alike.foldlM (fun q q' p pair pair' hpair h => ?_) hpairs h
  obtain ⟨hname, hcolumn, hoperand, hgood⟩ := hpair
  have hreference : (Reference.named pair.1).Unmarked := hcolumn
  have halike : Alike usage lit q q' p (p.compare .and (.named pair.1)
      (inlineComparison lit (some "=") (some pair'.2)).1
      (inlineComparison lit (some "=") (some pair'.2)).2) :=
    alike_compare hreference (.some ⟨hoperand, hgood⟩) h
  rw [hname]
  exact halike

/-- **An entry of column, operator and operand.** -/
theorem alike_whereTriple {entry entry' : List Operand}
    (hentry : List.Forall₂ (OperandTwin usage lit) entry entry') (hgood : UnmarkedEntry entry)
    (h : q.whereTriple entry = .ok q') :
    Alike usage lit q q' p (p.whereTriple (inlineEntry lit entry')) := by
  unfold whereTriple at h
  split at h
  · next column operator operand =>
    obtain ⟨column', operator', operand', hcolumn, hoperator, hoperand, rfl⟩ :
        ∃ column' operator' operand', OperandTwin usage lit column column' ∧
          OperandTwin usage lit operator operator' ∧ OperandTwin usage lit operand operand' ∧
          entry' = [column', operator', operand'] := by
      cases hentry with
      | cons hcolumn hrest =>
        cases hrest with
        | cons hoperator hrest =>
          cases hrest with
          | cons hoperand hrest =>
            cases hrest
            exact ⟨_, _, _, hcolumn, hoperator, hoperand, rfl⟩
    split at h
    · cases h
    · cases h
    · next name text hname htext =>
      obtain ⟨hnameGood, hoperandGood⟩ := hgood
      have hname' : column'.text? = some name := hcolumn.text?_eq.trans hname
      have htext' : operator'.text? = some text := hoperator.text?_eq.trans htext
      have hreference : (Reference.named name).Unmarked := hnameGood name hname
      have halike : Alike usage lit q q' p (p.compare .and (.named name)
          (inlineComparison lit (some text) (some operand')).1
          (inlineComparison lit (some text) (some operand')).2) :=
        alike_compare hreference (.some ⟨hoperand, hoperandGood⟩) h
      simp only [inlineEntry, htext']
      simp only [inlineComparison] at halike
      -- a text that is no operator is a value: its entry is inlined to an equality
      by_cases hop : isOperator text = true
      · rw [if_pos hop] at halike ⊢
        simp only [whereTriple, hname', htext']
        exact halike
      · rw [if_neg hop] at halike ⊢
        have hequal : (Operand.value (.text "=")).text? = some "=" := rfl
        simp only [whereTriple, hname', hequal]
        exact halike
  · cases h

theorem alike_whereTriples {entries entries' : List (List Operand)}
    (hentries : List.Forall₂
      (fun entry entry' => List.Forall₂ (OperandTwin usage lit) entry entry' ∧ UnmarkedEntry entry)
      entries entries')
    (h : q.whereTriples connector entries = .ok q') :
    Alike usage lit q q' p (p.whereTriples connector (entries'.map (inlineEntry lit))) := by
  obtain ⟨g, hg, h⟩ := bind_eq_ok.mp h
  obtain rfl : q.whereGroup connector g = q' := Except.ok.inj h
  -- the entries filter a fresh statement on each side, and what they add there is the group
  have halike : Alike usage lit q.newQuery g p.newQuery
      ((entries'.map (inlineEntry lit)).foldlM whereTriple p.newQuery) := by
    rw [List.foldlM_map]
    exact Alike.foldlM (fun q q' p entry entry' hentry h => alike_whereTriple hentry.1 hentry.2 h)
      hentries hg
  obtain ⟨cs, cs', vs, vs', hcs⟩ := halike
  rw [whereTriples, hcs.2.1]
  exact alike_whereGroup (Alike.groupTwin ⟨cs, cs', vs, vs', hcs.1, rfl, hcs.2.2⟩)

/-! ## Other conditions -/

theorem alike_whereBetween {column : Reference} {low high : Value} {negated : Bool}
    (hcolumn : column.Unmarked) (hlow : low.Unmarked) (hhigh : high.Unmarked) :
    Alike usage lit q (q.whereBetween connector negated column low high) p
      (.ok (p.whereBetween connector negated column (low.inline lit) (high.inline lit))) := by
  refine .addWhere (fun d hd => .of_fills ?_) ?_
  · rw [show [low, high] = [low] ++ [high] from rfl, Value.withoutRaw_append]
    refine .append (.append_unmarked (.prepend ?_ (fills_placeholder hd hlow)) (by decide))
      (fills_placeholder hd hhigh)
    exact unmarked_negated hd hcolumn negated (by decide) (by decide)
  · rw [show [low.inline lit, high.inline lit] = [low.inline lit] ++ [high.inline lit] from rfl,
      Value.withoutRaw_append, Value.withoutRaw_inline, Value.withoutRaw_inline]
    rfl

theorem alike_whereExists {negated : Bool} {e e' : Statement} (h : CompiledTwin usage lit e e') :
    Alike usage lit q (q.whereExists connector negated e) p
      (.ok (p.whereExists connector negated e')) := by
  refine .addWhere (fun d hd => ?_) (by rw [h.bound]; rfl)
  rw [Statement.bound, h.rawFree.withoutRaw_flatten]
  refine (h.text d hd).map fun us s t hst => ?_
  refine (hst.prepend (.append ?_ (by decide))).append_unmarked (by decide)
  cases negated <;> decide

theorem Value.withoutRaw_map_inline (values : List Value) :
    Value.withoutRaw (values.map fun v => v.inline lit) = [] := by
  simp [Value.withoutRaw, Value.isRaw_inline]

theorem alike_whereIn_values {column : Reference} {negated : Bool} {values : List Value}
    (hcolumn : column.Unmarked) (hvalues : ∀ v ∈ values, v.Unmarked) :
    Alike usage lit q (q.whereIn connector negated column (.values values)) p
      (.ok (p.whereIn connector negated column (.values (values.map fun v => v.inline lit)))) := by
  refine .addWhere (fun d hd => .of_fills ?_) (Value.withoutRaw_map_inline values)
  simp only [Dialect.renderMember, List.isEmpty_map]
  split
  · next hnil =>
    obtain rfl : values = [] := List.isEmpty_iff.mp hnil
    refine .of_unmarked ?_
    cases negated <;> decide
  · refine .append_unmarked (.prepend ?_ (fills_placeholders hd hvalues)) (by decide)
    exact unmarked_negated hd hcolumn negated (by decide) (by decide)

theorem alike_whereIn_query {column : Reference} {negated : Bool} {e e' : Statement}
    (hcolumn : column.Unmarked) (h : CompiledTwin usage lit e e') :
    Alike usage lit q (q.whereIn connector negated column (.query e)) p
      (.ok (p.whereIn connector negated column (.query e'))) := by
  refine .addWhere (fun d hd => ?_) (by rw [h.bound]; rfl)
  rw [Statement.bound, h.rawFree.withoutRaw_flatten]
  refine (h.text d hd).map fun us s t hst => ?_
  refine (hst.prepend ?_).append_unmarked (by decide)
  exact unmarked_negated hd hcolumn negated (by decide) (by decide)

theorem alike_whereNull {column : Reference} {negated : Bool} (hcolumn : column.Unmarked) :
    Alike usage lit q (q.whereNull connector negated column) p
      (.ok (p.whereNull connector negated column)) := by
  refine .addWhere (fun d hd => .of_fills (.of_unmarked ?_)) rfl
  exact unmarked_negated hd hcolumn negated (by decide) (by decide)

/-! ## Calls -/

/-- What the embedded statements have to be, by what becomes of them. -/
structure FilterTwin (usage : Usage) (lit : Literals) (role : Role) (e e' : Statement) : Prop where
  compiled : role = .compiled → CompiledTwin usage lit e e'
  group : role = .group → GroupTwin usage lit e e'

/-- **A condition of any shape.** -/
theorem alike_whereCondition {given : Condition} (hgood : given.Unmarked) {es es' : List Statement}
    (hlen : es.length = given.embedded.length) {part : Part}
    (hes : List.Forall₂ (FilterTwin usage lit ((Call.condition connector given).role part)) es es')
    (h : q.whereCondition connector (given.supply es) = .ok q') :
    Alike usage lit q q' p (p.whereCondition connector ((given.supply es').inline lit)) := by
  have hle : given.embedded.length ≤ es.length := Nat.le_of_eq hlen.symm
  cases given with
  | group e =>
    obtain rfl : q.whereGroup connector (es.headD e) = q' := Except.ok.inj h
    exact alike_whereGroup ((forall₂_headD hes hle e).group rfl)
  | equalities pairs =>
    have hcompiled := hes.imp fun _ _ he => he.compiled rfl
    exact alike_whereEqualities (lifts_pair.each pairs hgood es es' hle hcompiled) h
  | triples entries =>
    have hcompiled := hes.imp fun _ _ he => he.compiled rfl
    exact alike_whereTriples (lifts_entry.each entries hgood es es' hle hcompiled) h
  | column name operator operand =>
    have hcompiled := hes.imp fun _ _ he => he.compiled rfl
    exact alike_compare hgood.1 (lifts_optionalOperand operand hgood.2 es es' hle hcompiled) h

/-- **A call that filters rows** and its inlined form add conditions alike. -/
theorem Call.alike_apply {step : Call} (hfilters : step.Filters) (hc : step.WellMarked)
    {es es' : List Statement} (hlen : es.length = step.embedded.length) {part : Part}
    (hes : List.Forall₂ (FilterTwin usage lit (step.role part)) es es')
    (h : (step.supply es).apply q = .ok q') :
    Alike usage lit q q' p (((step.supply es').inline lit).apply p) := by
  have hle : step.embedded.length ≤ es.length := Nat.le_of_eq hlen.symm
  cases step <;> try exact hfilters.elim
  case compare connector column operator operand =>
    have hcompiled := hes.imp fun _ _ he => he.compiled rfl
    exact alike_compare hc.1 (lifts_optionalOperand operand hc.2 es es' hle hcompiled) h
  case condition connector given => exact alike_whereCondition hc hlen hes h
  case group connector e =>
    obtain rfl : q.whereGroup connector (es.headD e) = q' := Except.ok.inj h
    exact alike_whereGroup ((forall₂_headD hes hle e).group rfl)
  case whereRaw connector sql values =>
    obtain rfl : q.whereRaw connector sql values = q' := Except.ok.inj h
    exact .addWhere (fun d hd => .of_fills (fills_inlineFragment hc)) rfl
  case between connector negated column low high =>
    obtain rfl : q.whereBetween connector negated column low high = q' := Except.ok.inj h
    exact alike_whereBetween hc.1 hc.2.1 hc.2.2
  case existence connector negated e =>
    obtain rfl : q.whereExists connector negated (es.headD e) = q' := Except.ok.inj h
    exact alike_whereExists ((forall₂_headD hes hle e).compiled rfl)
  case membership connector negated column source =>
    cases source with
    | values values =>
      obtain rfl : q.whereIn connector negated column (.values values) = q' := Except.ok.inj h
      exact alike_whereIn_values hc.1 hc.2
    | query e =>
      obtain rfl : q.whereIn connector negated column (.query (es.headD e)) = q' := Except.ok.inj h
      exact alike_whereIn_query hc.1 ((forall₂_headD hes hle e).compiled rfl)
  case nullCheck connector negated column =>
    obtain rfl : q.whereNull connector negated column = q' := Except.ok.inj h
    exact alike_whereNull hc

end FluentSql
