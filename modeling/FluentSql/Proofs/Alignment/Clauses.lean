import FluentSql.Proofs.Alignment.InOrder
import FluentSql.Proofs.Alignment.Inlining
import FluentSql.Statement.Render

/-!
# `Alignment.Clauses` — the texts of two statements, clause by clause

Two statements are compared whose clauses correspond part by part, the second one with literals where
the first one has values. If the first one renders, so does the second, and its text is that of the
first with the literals filled in.

## Contents
- `Tracks`, the comparison of two renderings.
- Single parts: values, conditions of joins, columns.
- `CriterionTwin` and `MemberTwin`, parts that embed statements, and the clauses made of them.
-/

namespace FluentSql

variable {usage : Usage} {lit : Literals} {d : Dialect} {vs : List Value}

/-- If the first renders, so does the second, with literals of the used values for its markers. -/
def Tracks (usage : Usage) (lit : Literals) (vs : List Value) (a b : Except Error String) : Prop :=
  ∀ s, a = .ok s → ∃ t, b = .ok t ∧ Fits usage lit vs s t

namespace Tracks

theorem of_fills {s t : String} (h : Fills lit vs s t) : Tracks usage lit vs (.ok s) (.ok t) := by
  intro u hu
  obtain rfl : s = u := Except.ok.inj hu
  exact ⟨t, rfl, .of_fills h⟩

/-- Text put around both renderings. -/
theorem map {a b : Except Error String} (h : Tracks usage lit vs a b) {f g : String → String}
    (hfg : ∀ us s t, Fills lit us s t → Fills lit us (f s) (g t)) :
    Tracks usage lit vs (a >>= fun s => pure (f s)) (b >>= fun t => pure (g t)) := by
  intro u hu
  obtain ⟨s, hs, hu⟩ := bind_eq_ok.mp hu
  obtain rfl : f s = u := Except.ok.inj hu
  obtain ⟨t, ht, us, hus, hst⟩ := h s hs
  exact ⟨g t, bind_eq_ok.mpr ⟨t, ht, rfl⟩, us, hus, hfg us s t hst⟩

end Tracks

/-! ## Values and raw fragments -/

/-- A value and its inlined form in the text of a dialect. -/
theorem fills_placeholder (hd : d.QuestionMarked) {v : Value} (hv : v.Unmarked) :
    Fills lit (Value.withoutRaw [v]) (d.placeholder v) (d.placeholder (v.inline lit)) := by
  have hmarker : ∀ w, Fills lit [w] d.marker (lit.text w) := by
    intro w
    rw [hd.marker]
    exact .marker w
  cases v with
  | raw sql => exact .of_unmarked hv
  | _ => exact hmarker _

/-- A list of values, separated by commas. -/
theorem fills_placeholders (hd : d.QuestionMarked) {values : List Value}
    (hvs : ∀ v ∈ values, v.Unmarked) :
    Fills lit (Value.withoutRaw values) (d.placeholders values)
      (d.placeholders (values.map fun v => v.inline lit)) := by
  refine .intercalate (by decide) ?_
  induction values with
  | nil => exact .nil
  | cons v values ih =>
    rw [← List.singleton_append, Value.withoutRaw_append]
    exact .cons (fills_placeholder hd (hvs v List.mem_cons_self))
      (ih fun w hw => hvs w (List.mem_cons_of_mem _ hw))

/-- A raw fragment with as many markers as values is filled by inlining it. -/
theorem fills_inlineFragment {sql : String} {values : List Value} (h : Balanced sql values) :
    Fills lit (Value.withoutRaw values) sql (inlineFragment lit sql values) := by
  rw [Fills.iff_fill_eq, inlineFragment]
  have hlen : sql.toList.count '?' =
      (((Value.withoutRaw values).map lit.text).map String.toList).length := by
    rw [List.length_map, List.length_map]; exact h
  obtain ⟨t, ht⟩ := Text.Filled.exists_of_count_eq hlen
  rw [Text.fill, Text.fillChars_eq_some_iff.mpr ht]
  rfl

/-! ## Lines with connectors -/

/-- A condition with the connector before it. -/
def connected (line : Connector × String) : String :=
  line.1.word ++ " " ++ line.2

/-- The connector of the first line is the one that is dropped: it stands at the very front. -/
theorem dropFirstConnector_word (connector : Connector) (s : String) :
    Text.dropFirstConnector (connector.word ++ " " ++ s) = s := by
  cases connector <;>
    simp [Text.dropFirstConnector, Connector.word, Text.dropFirstConnectorChars,
      Text.afterConnector, Text.afterKeyword, String.toList_append]

theorem conjoin_cons (line : Connector × String) (texts : List String) :
    Dialect.conjoin (connected line :: texts) = " ".intercalate (line.2 :: texts) := by
  rw [Dialect.conjoin, connected, String.append_assoc, ← String.append_assoc,
    String.intercalate_cons_append, dropFirstConnector_word]

/-- Lines with the same connector, the second with literals for the markers. -/
def LineFills (lit : Literals) (vs : List Value) (line line' : Connector × String) : Prop :=
  line'.1 = line.1 ∧ Fills lit vs line.2 line'.2

theorem LineFills.connected {line line' : Connector × String} (h : LineFills lit vs line line') :
    Fills lit vs (connected line) (connected line') := by
  obtain ⟨hconnector, htext⟩ := h
  rw [FluentSql.connected, FluentSql.connected, hconnector]
  refine htext.prepend (Text.Unmarked.append ?_ (by decide))
  cases line.1 <;> decide

/-- Lines of conditions, the first connector left out. -/
theorem fills_conjoin {lines lines' : List (Connector × String)}
    (h : InOrder (LineFills lit) vs lines lines') :
    Fills lit vs (Dialect.conjoin (lines.map connected)) (Dialect.conjoin (lines'.map connected)) := by
  cases h with
  | nil => exact .of_unmarked (by decide)
  | @cons us ws x y xs ys hxy hrest =>
    -- the connector of the first line is gone on both sides; the other lines keep theirs
    rw [List.map_cons, List.map_cons, conjoin_cons, conjoin_cons]
    refine .intercalate (by decide) (.cons hxy.2 ?_)
    clear hxy
    induction hrest with
    | nil => exact .nil
    | cons hzw _ ih => exact .cons hzw.connected ih

/-! ## Joins -/

/-- A condition of a join as a line. -/
def Dialect.joinLine (d : Dialect) (c : JoinConstraint) : Connector × String :=
  (c.connector, " ".intercalate [d.quoteColumn c.first, c.operator, d.renderJoinTarget c.second])

theorem renderJoinConstraint_eq : d.renderJoinConstraint = fun c => connected (d.joinLine c) := by
  funext c
  simp [Dialect.renderJoinConstraint, connected, Dialect.joinLine, String.append_assoc]

theorem fills_joinTarget (hd : d.QuestionMarked) {target : JoinTarget} (h : target.Unmarked) :
    Fills lit (Value.withoutRaw target.value?.toList) (d.renderJoinTarget target)
      (d.renderJoinTarget (target.inline lit)) := by
  cases target with
  | column reference => exact .of_unmarked (hd.quoteColumn h)
  | value v => exact fills_placeholder hd h

/-- **A join.** Its values are those of its conditions, one after the other. -/
theorem fills_join (hd : d.QuestionMarked) {j : Join} (h : j.Unmarked) :
    Fills lit j.bindings (d.renderJoin j) (d.renderJoin (j.inline lit)) := by
  obtain ⟨table, kind, constraints⟩ := j
  obtain ⟨htable, hconstraints⟩ := h
  have hhead : Text.Unmarked (kind.word ++ " JOIN " ++ d.quoteTable table) := by
    refine Text.Unmarked.append (Text.Unmarked.append ?_ (by decide)) (hd.quoteTable htable)
    cases kind <;> decide
  have hlines : InOrder (LineFills lit) (Join.bindings ⟨table, kind, constraints⟩)
      (constraints.map d.joinLine) ((constraints.map fun c => c.inline lit).map d.joinLine) := by
    clear hhead htable
    induction constraints with
    | nil => exact .nil
    | cons c constraints ih =>
      obtain ⟨hfirst, hoperator, hsecond⟩ := hconstraints c List.mem_cons_self
      -- the values of the first condition, which may have none, and those of the others
      have hsplit : Join.bindings ⟨table, kind, c :: constraints⟩ =
          Value.withoutRaw c.second.value?.toList ++ Join.bindings ⟨table, kind, constraints⟩ := by
        rw [Join.bindings, Join.bindings, ← Value.withoutRaw_append, List.filterMap_cons]
        cases c.second.value? <;> rfl
      rw [hsplit]
      refine .cons ⟨rfl, ?_⟩ (ih fun c' hc' => hconstraints c' (List.mem_cons_of_mem _ hc'))
      simp only [Dialect.joinLine, String.intercalate_cons_cons, String.intercalate_singleton,
        JoinConstraint.inline]
      exact ((fills_joinTarget hd hsecond).prepend (.append hoperator (by decide))).prepend
        (.append (hd.quoteColumn hfirst) (by decide))
  -- without conditions there is no ON
  by_cases hempty : constraints = []
  · subst hempty
    exact .of_unmarked (by simpa [Dialect.renderJoin] using hhead)
  · have hnil : constraints.isEmpty = false := by simpa using hempty
    simp only [Dialect.renderJoin, Join.inline, List.isEmpty_map, hnil]
    refine (Fills.prepend (hhead.append (by decide)) ?_)
    have htexts := fills_conjoin hlines
    simpa only [Dialect.conjoin, List.map_map, Function.comp_def, renderJoinConstraint_eq]
      using htexts

/-! ## Columns -/

/-- A selected column: a name stands for itself and takes no value, raw text has its literals. -/
inductive ColumnTwin (usage : Usage) (lit : Literals) : List Value → Reference → Reference → Prop where
  | named {name : String} (h : Text.Unmarked name) :
      ColumnTwin usage lit [] (.named name) (.named name)
  | raw {vs : List Value} {sql sql' : String} (h : Fits usage lit vs sql sql') :
      ColumnTwin usage lit vs (.raw sql) (.raw sql')

theorem ColumnTwin.of_unmarked {r : Reference} (h : r.Unmarked) : ColumnTwin usage lit [] r r := by
  cases r with
  | named name => exact .named h
  | raw sql => exact .raw (.of_fills (.of_unmarked h))

theorem fits_quoteColumns (hd : d.QuestionMarked) {columns columns' : List Reference}
    (h : InOrder (ColumnTwin usage lit) vs columns columns') :
    Fits usage lit vs (d.quoteColumns columns) (d.quoteColumns columns') := by
  have htexts : InOrder (Fits usage lit) vs (columns.map d.quoteColumn)
      (columns'.map d.quoteColumn) := by
    induction h with
    | nil => exact .nil
    | cons hxy _ ih =>
      refine .cons ?_ ih
      cases hxy with
      | named h => exact .of_fills (.of_unmarked (hd.quoteName h false))
      | raw h => exact h
  obtain ⟨us, hus, htexts⟩ := htexts.exists_uses
  exact ⟨us, hus, .intercalate (by decide) htexts⟩

/-! ## Conditions -/

/-- A condition of a list: the connectors are the same, and the second tracks the first. Which dialect
    renders it is not known where it is added. -/
structure CriterionTwin (usage : Usage) (lit : Literals) (vs : List Value) (c c' : Criterion) :
    Prop where
  connector : c'.connector = c.connector
  text : ∀ d : Dialect, d.QuestionMarked →
    Tracks usage lit vs (d.predicateText c.predicate) (d.predicateText c'.predicate)

theorem criterionText_eq (c : Criterion) :
    d.criterionText c =
      d.predicateText c.predicate >>= fun text => pure (connected (c.connector, text)) := by
  cases c
  rfl

/-- **Lists of conditions.** The lines of the second list are those of the first with literals. -/
theorem criterionTexts_twin (hd : d.QuestionMarked) {criteria criteria' : List Criterion}
    (h : InOrder (CriterionTwin usage lit) vs criteria criteria') {texts : List String}
    (htexts : d.criterionTexts criteria = .ok texts) :
    ∃ lines lines' us, texts = lines.map connected ∧
      d.criterionTexts criteria' = .ok (lines'.map connected) ∧ usage.Uses us vs ∧
      InOrder (LineFills lit) us lines lines' := by
  induction h generalizing texts with
  | nil =>
    obtain rfl : [] = texts := Except.ok.inj htexts
    exact ⟨[], [], [], rfl, rfl, .refl usage [], .nil⟩
  | @cons vs ws c c' criteria criteria' hc _ ih =>
    rw [Dialect.criterionTexts, criterionText_eq] at htexts
    obtain ⟨text, htext, htexts⟩ := bind_eq_ok.mp htexts
    obtain ⟨body, hbody, htext⟩ := bind_eq_ok.mp htext
    obtain ⟨rest, hrest, htexts⟩ := bind_eq_ok.mp htexts
    obtain rfl : connected (c.connector, body) = text := Except.ok.inj htext
    obtain rfl : connected (c.connector, body) :: rest = texts := Except.ok.inj htexts
    obtain ⟨body', hbody', us, hus, hfills⟩ := hc.text d hd body hbody
    obtain ⟨lines, lines', ws', rfl, hlines', hws', hlines⟩ := ih hrest
    -- the first condition uses some of its values, and the others use some of theirs
    refine ⟨(c.connector, body) :: lines, (c'.connector, body') :: lines', us ++ ws', rfl, ?_,
      hus.append hws', .cons ⟨hc.connector, hfills⟩ hlines⟩
    rw [Dialect.criterionTexts, criterionText_eq, hbody', hlines']
    rfl

/-- Conditions after a keyword; without conditions both clauses are empty. -/
theorem fits_keywordBefore {keyword : String} (hkeyword : Text.Unmarked keyword)
    {lines lines' : List (Connector × String)} (h : InOrder (LineFills lit) vs lines lines') :
    Fills lit vs (Dialect.keywordBefore keyword (lines.map connected))
      (Dialect.keywordBefore keyword (lines'.map connected)) := by
  rw [Dialect.keywordBefore, Dialect.keywordBefore, List.isEmpty_map, List.isEmpty_map,
    ← h.isEmpty_eq]
  split
  · next hnil =>
    obtain rfl : lines = [] := List.isEmpty_iff.mp hnil
    cases h
    exact .of_unmarked (by decide)
  · exact (fills_conjoin h).prepend (hkeyword.append (by decide))

/-- **The WHERE and HAVING clauses.** -/
theorem renderCriteria_tracks (hd : d.QuestionMarked) {keyword : String} (hkeyword : Text.Unmarked keyword)
    {criteria criteria' : List Criterion}
    (h : InOrder (CriterionTwin usage lit) vs criteria criteria') :
    Tracks usage lit vs (d.renderCriteria keyword criteria) (d.renderCriteria keyword criteria') := by
  intro s hs
  obtain ⟨texts, htexts, rfl⟩ := map_eq_ok.mp hs
  obtain ⟨lines, lines', us, rfl, hlines', hus, hlines⟩ := criterionTexts_twin hd h htexts
  exact ⟨_, map_eq_ok.mpr ⟨_, hlines', rfl⟩, us, hus, fits_keywordBefore hkeyword hlines⟩

/-- **A group.** It takes the values of its conditions. -/
theorem group_tracks (hd : d.QuestionMarked) {q p : Statement}
    (h : InOrder (CriterionTwin usage lit) vs q.wheres p.wheres) :
    Tracks usage lit vs (d.predicateText (.group q)) (d.predicateText (.group p)) := by
  intro s hs
  obtain ⟨texts, htexts, hs⟩ := bind_eq_ok.mp hs
  obtain rfl : "(" ++ Dialect.conjoin texts ++ ")" = s := Except.ok.inj hs
  cases q
  cases p
  obtain ⟨lines, lines', us, rfl, hlines', hus, hlines⟩ := criterionTexts_twin hd h htexts
  refine ⟨_, bind_eq_ok.mpr ⟨_, hlines', rfl⟩, us, hus, ?_⟩
  exact ((fills_conjoin hlines).prepend (by decide)).append_unmarked (by decide)

/-! ## Unions -/

/-- A member of a union: the keywords are the same, and the second SELECT tracks the first. -/
structure MemberTwin (usage : Usage) (lit : Literals) (vs : List Value) (u u' : UnionMember) :
    Prop where
  all : u'.all = u.all
  text : ∀ d : Dialect, d.QuestionMarked →
    Tracks usage lit vs (d.renderSelect u.query) (d.renderSelect u'.query)

/-- A member with its keyword. -/
def memberLine (all : Bool) (sql : String) : String :=
  (if all then "UNION ALL " else "UNION ") ++ sql

/-- There are texts where there are members. -/
theorem memberTexts_isEmpty {members : List UnionMember} {texts : List String}
    (h : d.memberTexts members = .ok texts) : texts.isEmpty = members.isEmpty := by
  cases members with
  | nil =>
    obtain rfl : [] = texts := Except.ok.inj h
    rfl
  | cons u members =>
    obtain ⟨all, query⟩ := u
    rw [Dialect.memberTexts] at h
    obtain ⟨_, _, h⟩ := bind_eq_ok.mp h
    obtain ⟨_, _, h⟩ := bind_eq_ok.mp h
    obtain rfl := Except.ok.inj h
    rfl

theorem memberTexts_twin (hd : d.QuestionMarked) {members members' : List UnionMember}
    (h : InOrder (MemberTwin usage lit) vs members members') {texts : List String}
    (htexts : d.memberTexts members = .ok texts) :
    ∃ texts' us, d.memberTexts members' = .ok texts' ∧ usage.Uses us vs ∧
      InOrder (Fills lit) us texts texts' := by
  induction h generalizing texts with
  | nil =>
    obtain rfl : [] = texts := Except.ok.inj htexts
    exact ⟨[], [], rfl, .refl usage [], .nil⟩
  | @cons vs ws u u' members members' hu _ ih =>
    obtain ⟨all, query⟩ := u
    obtain ⟨all', query'⟩ := u'
    obtain ⟨rfl, htracks⟩ := hu
    rw [Dialect.memberTexts] at htexts
    obtain ⟨sql, hsql, htexts⟩ := bind_eq_ok.mp htexts
    obtain ⟨rest, hrest, htexts⟩ := bind_eq_ok.mp htexts
    obtain rfl : memberLine all' sql :: rest = texts := Except.ok.inj htexts
    obtain ⟨sql', hsql', us, hus, hfills⟩ := htracks d hd sql hsql
    obtain ⟨rest', ws', hrest', hws', hlines⟩ := ih hrest
    refine ⟨memberLine all' sql' :: rest', us ++ ws', ?_, hus.append hws', .cons ?_ hlines⟩
    · rw [Dialect.memberTexts, hsql', hrest']
      rfl
    · refine hfills.prepend ?_
      cases all' <;> decide

end FluentSql
