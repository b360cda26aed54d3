import FluentSql.Proofs.Alignment.Twin

/-!
# `Alignment.Compiled` — the SELECT of a statement and of its twin

Twins that bind values in order in every clause are compiled to texts that do so as a whole: the
clauses are written in the order in which their values are sent.

## Contents
- `renderSelect_eq_ok`, what a SELECT is made of.
- Clauses: columns, joins, unions, and those without values.
- `Twin.renders`, the whole text, with the values of the columns apart, and `Twin.compiled`.
-/

namespace FluentSql

variable {usage : Usage} {lit : Literals} {d : Dialect} {q p : Statement}

/-- A SELECT is rendered if its conditions, orders and unions are. -/
theorem renderSelect_eq_ok {s : String} :
    d.renderSelect q = .ok s ↔ ∃ wheres havings orders members unions,
      d.criterionTexts q.wheres = .ok wheres ∧ d.criterionTexts q.havings = .ok havings ∧
      d.renderOrders q.tail.orders = .ok orders ∧ d.memberTexts q.unions = .ok members ∧
      d.renderUnions members q.unionTail = .ok unions ∧
      d.assemble q (Dialect.keywordBefore "WHERE" wheres) (Dialect.keywordBefore "HAVING" havings)
        orders unions = s := by
  cases q
  rw [Dialect.renderSelect]
  constructor
  · intro h
    obtain ⟨wheres, hwheres, h⟩ := bind_eq_ok.mp h
    obtain ⟨havings, hhavings, h⟩ := bind_eq_ok.mp h
    obtain ⟨orders, horders, h⟩ := bind_eq_ok.mp h
    obtain ⟨members, hmembers, h⟩ := bind_eq_ok.mp h
    obtain ⟨unions, hunions, h⟩ := bind_eq_ok.mp h
    exact ⟨wheres, havings, orders, members, unions, hwheres, hhavings, horders, hmembers, hunions,
      Except.ok.inj h⟩
  · rintro ⟨wheres, havings, orders, members, unions, hwheres, hhavings, horders, hmembers, hunions, rfl⟩
    exact bind_eq_ok.mpr ⟨wheres, hwheres, bind_eq_ok.mpr ⟨havings, hhavings,
      bind_eq_ok.mpr ⟨orders, horders, bind_eq_ok.mpr ⟨members, hmembers,
        bind_eq_ok.mpr ⟨unions, hunions, rfl⟩⟩⟩⟩⟩

/-! ## Clauses without values -/

theorem unmarked_renderCount {keyword : String} (h : Text.Unmarked keyword) (n : Option Int64) :
    Text.Unmarked (Dialect.renderCount keyword n) := by
  cases n with
  | none => exact Text.unmarked_empty
  | some n =>
    rw [Dialect.renderCount]
    split
    · exact .append (h.append (by decide)) (unmarked_decimal _)
    · exact Text.unmarked_empty

theorem unmarked_renderLimit (n : Option Int64) : Text.Unmarked (Dialect.renderLimit n) :=
  unmarked_renderCount (by decide) n

theorem unmarked_renderOffset (n : Option Int64) : Text.Unmarked (Dialect.renderOffset n) :=
  unmarked_renderCount (by decide) n

/-- The columns of an aggregate hold no marker, and neither does its text. -/
theorem unmarked_renderAggregate (hd : d.QuestionMarked) {aggregate : Option Aggregate}
    (h : ∀ a ∈ aggregate, ∀ c ∈ a.columns, c.Unmarked) (distinct : Bool) :
    Text.Unmarked (d.renderAggregate distinct aggregate) := by
  cases aggregate with
  | none => exact Text.unmarked_empty
  | some a =>
    have hcolumns : Text.Unmarked
        (if a.columns.isEmpty = true then "*" else d.quoteColumns a.columns) := by
      split
      · decide
      · exact hd.quoteColumns (h a rfl)
    simp only [Dialect.renderAggregate]
    generalize (if a.columns.isEmpty = true then "*" else d.quoteColumns a.columns) = columns
      at hcolumns ⊢
    refine .append (.append (.append (.append (by decide) ?_) (by decide)) ?_) (by decide)
    · cases a.function <;> decide
    · split
      · exact .append (by decide) hcolumns
      · exact hcolumns

namespace Statement.Clean

theorem renderTable (h : q.Clean) (hd : d.QuestionMarked) :
    Text.Unmarked (d.renderTable q.table) := by
  cases ht : q.table with
  | none => exact Text.unmarked_empty
  | some table => exact .append (by decide) (hd.quoteTable (h.table table ht))

theorem renderGroups (h : q.Clean) (hd : d.QuestionMarked) :
    Text.Unmarked (d.renderGroups q.groups) := by
  rw [Dialect.renderGroups]
  split
  · exact Text.unmarked_empty
  · exact .append (by decide) (hd.quoteColumns h.groups)

theorem renderLock (h : q.Clean) (d : Dialect) :
    Text.Unmarked ((q.lock.map d.renderLock).getD "") := by
  cases hl : q.lock with
  | none => exact Text.unmarked_empty
  | some lock =>
    have hlock := h.lock lock hl
    simp only [Option.map_some, Option.getD_some, Dialect.renderLock]
    split <;> first | decide | exact hlock

end Statement.Clean

/-! ## Clauses with values -/

/-- Joined tables. -/
theorem fills_renderJoins (hd : d.QuestionMarked) {vs : List Value} {joins joins' : List Join}
    (h : InOrder (JoinTwin lit) vs joins joins') :
    Fills lit vs (d.renderJoins joins) (d.renderJoins joins') := by
  refine .intercalate (by decide) ?_
  induction h with
  | nil => exact .nil
  | cons hj _ ih => exact .cons (hj d hd) ih

/-- **The projection.** Its values are used as far as its columns are shown. -/
theorem Twin.renderColumns (h : Twin usage lit .whole q p) (hd : d.QuestionMarked) :
    ∃ shown, Fills lit shown (d.renderColumns q) (d.renderColumns p) ∧
      (q.aggregate = none → usage.Uses shown q.bindings.projection) ∧
      (q.aggregate ≠ none → shown = []) := by
  unfold Dialect.renderColumns
  rw [h.aggregate, h.distinct]
  cases q.aggregate with
  | some a => exact ⟨[], .of_unmarked Text.unmarked_empty, fun h => (nomatch h), fun _ => rfl⟩
  | none =>
    have hword : Text.Unmarked (if q.distinct = true then "SELECT DISTINCT " else "SELECT ") := by
      split <;> decide
    obtain ⟨used, hused, hcolumns⟩ := h.columns rfl
    simp only [← hcolumns.isEmpty_eq]
    by_cases hempty : q.columns.isEmpty = true
    · rw [List.isEmpty_iff.mp hempty] at hcolumns
      obtain rfl : used = [] := hcolumns.eq_nil
      have hstar : Text.Unmarked "*" := by decide
      rw [if_pos hempty, if_pos hempty]
      exact ⟨[], .prepend hword (.of_unmarked hstar), fun _ => hused, fun h => absurd rfl h⟩
    · -- values may be left over twice: of columns that are gone, and within a raw column
      obtain ⟨us, hus, hfills⟩ := fits_quoteColumns hd hcolumns
      rw [if_neg hempty, if_neg hempty]
      exact ⟨us, .prepend hword hfills, fun _ => hus.trans hused, fun h => absurd rfl h⟩

/-- The members of a union, with a tail that binds nothing. -/
theorem renderUnions_tracks (hd : d.QuestionMarked) {vs values : List Value} {texts texts' : List String}
    (h : InOrder (Fills lit) vs texts texts') {tail : Tail}
    (hsettled : OrdersSettled tail.orders values) (hnone : texts = [] → tail.orders = []) {s : String}
    (hs : d.renderUnions texts tail = .ok s) :
    values = [] ∧ ∃ t, d.renderUnions texts' tail = .ok t ∧ Fills lit vs s t := by
  unfold Dialect.renderUnions at hs ⊢
  rw [← h.isEmpty_eq]
  by_cases hempty : texts.isEmpty = true
  · rw [if_pos hempty] at hs ⊢
    obtain rfl : "" = s := Except.ok.inj hs
    -- without members the tail is not written, and it has no orders to bind values to
    have hnil : texts = [] := List.isEmpty_iff.mp hempty
    have horders : d.renderOrders tail.orders = .ok "" := by rw [hnone hnil]; rfl
    rw [hnil] at h
    cases h
    exact ⟨(renderOrders_settled hd hsettled horders).1, "", rfl, .of_unmarked (by decide)⟩
  · rw [if_neg hempty] at hs ⊢
    obtain ⟨orders, horders, hs⟩ := bind_eq_ok.mp hs
    obtain rfl := Except.ok.inj hs
    obtain ⟨hvalues, hunmarked⟩ := renderOrders_settled hd hsettled horders
    refine ⟨hvalues, _, bind_eq_ok.mpr ⟨orders, horders, rfl⟩, .joinParts ?_⟩
    have htail : ∀ text ∈ [orders, Dialect.renderLimit tail.limit, Dialect.renderOffset tail.offset],
        Text.Unmarked text := by
      intro text hmem
      simp only [List.mem_cons, List.not_mem_nil, or_false] at hmem
      rcases hmem with rfl | rfl | rfl
      · exact hunmarked
      · exact unmarked_renderLimit tail.limit
      · exact unmarked_renderOffset tail.offset
    have happend := h.append (.of_forall id fun text hmem => .of_unmarked (htail text hmem))
    rwa [List.append_nil] at happend

/-! ## The whole text -/

/-- The values of the clauses after the projection. -/
def Bindings.afterProjection (b : Bindings) : List Value :=
  [.table, .join, .filter, .having, .order, .union, .unionOrder].flatMap b.get

theorem Statement.bound_eq (q : Statement) :
    q.bound = q.bindings.projection ++ q.bindings.afterProjection :=
  rfl

/-- The clauses in their order, given the texts of those that embed statements. -/
theorem Twin.assemble (h : Twin usage lit .whole q p) (hq : q.Clean) (hd : d.QuestionMarked)
    {shown uw uh uu : List Value} {wheres wheres' havings havings' orders unions unions' : String}
    (hcolumns : Fills lit shown (d.renderColumns q) (d.renderColumns p))
    (hwheres : Fills lit uw wheres wheres') (hhavings : Fills lit uh havings havings')
    (horders : Text.Unmarked orders) (hunions : Fills lit uu unions unions') :
    Fills lit (shown ++ (q.bindings.join ++ (uw ++ (uh ++ uu))))
      (d.assemble q wheres havings orders unions) (d.assemble p wheres' havings' orders unions') := by
  -- the clauses as they are written; those in between take no values
  have hparts : InOrder (Fills lit) _ _ _ :=
    .cons (.of_unmarked (unmarked_renderAggregate hd hq.aggregate q.distinct)) <|
    .cons hcolumns <|
    .cons (.of_unmarked (hq.renderTable hd)) <|
    .cons (fills_renderJoins hd h.joins) <|
    .cons hwheres <|
    .cons (.of_unmarked (hq.renderGroups hd)) <|
    .cons hhavings <|
    .cons (.of_unmarked horders) <|
    .cons (.of_unmarked (unmarked_renderLimit q.tail.limit)) <|
    .cons (.of_unmarked (unmarked_renderOffset q.tail.offset)) <|
    .cons hunions <|
    .cons (.of_unmarked (hq.renderLock d)) .nil
  simp only [List.nil_append, List.append_nil] at hparts
  rw [Dialect.assemble, Dialect.assemble, h.aggregate, h.distinct, h.table, h.groups, h.tail, h.lock]
  exact (Fills.joinParts hparts).trim

/-- **A SELECT.** The twin renders as well. The literals are those of the values of the columns that are
    shown and, after these, of the values of all other clauses. -/
theorem Twin.renders (h : Twin usage lit .whole q p) (hq : q.Clean) (hd : d.QuestionMarked)
    {s : String} (hs : d.renderSelect q = .ok s) :
    ∃ t shown rest, d.renderSelect p = .ok t ∧ Fills lit (shown ++ rest) s t ∧
      usage.Uses rest q.bindings.afterProjection ∧
      Fills lit shown (d.renderColumns q) (d.renderColumns p) ∧
      (q.aggregate = none → usage.Uses shown q.bindings.projection) ∧
      (q.aggregate ≠ none → shown = []) := by
  obtain ⟨wheres, havings, orders, members, unions, hwheres, hhavings, horders, hmembers, hunions,
    rfl⟩ := renderSelect_eq_ok.mp hs
  obtain ⟨shown, hshown, hnone, hsome⟩ := h.renderColumns hd
  obtain ⟨whereLines, whereLines', uw, rfl, hwheres', huw, hwhereLines⟩ :=
    criterionTexts_twin hd h.wheres hwheres
  obtain ⟨havingLines, havingLines', uh, rfl, hhavings', huh, hhavingLines⟩ :=
    criterionTexts_twin hd h.havings hhavings
  obtain rfl : uh = q.bindings.having := huh
  obtain ⟨hnoOrder, hunmarkedOrders⟩ := renderOrders_settled hd hq.orders horders
  obtain ⟨members', uu, hmembers', huu, hlines⟩ := memberTexts_twin hd (h.unions rfl) hmembers
  have hnoMembers : members = [] → q.unions = [] := by
    intro hnil
    rw [← List.isEmpty_iff, ← memberTexts_isEmpty hmembers, hnil, List.isEmpty_nil]
  obtain ⟨hnoUnionOrder, unions', hunions', hfillsUnions⟩ :=
    renderUnions_tracks hd hlines hq.unionOrders (fun hnil => hq.unionTail (hnoMembers hnil)) hunions
  -- tables and orders bind nothing, which leaves the clauses with values in the order of their texts
  have hafter : q.bindings.afterProjection = q.bindings.join ++ (q.bindings.filter ++
      (q.bindings.having ++ q.bindings.union)) := by
    simp [Bindings.afterProjection, Bindings.get, hq.tableBindings, hnoOrder, hnoUnionOrder]
  refine ⟨_, shown, _, renderSelect_eq_ok.mpr ⟨_, _, orders, members', unions', hwheres', hhavings',
      h.tail ▸ horders, hmembers', h.unionTail ▸ hunions', rfl⟩,
    h.assemble hq hd hshown (fits_keywordBefore (by decide) hwhereLines)
      (fits_keywordBefore (by decide) hhavingLines) hunmarkedOrders hfillsUnions,
    ?_, hshown, hnone, hsome⟩
  rw [hafter]
  exact (Usage.Uses.refl usage _).append (huw.append ((Usage.Uses.refl usage _).append huu))

/-- **Compiled twins.** All values are used if those of the projection belong to columns that are shown. -/
theorem Twin.compiled (h : Twin usage lit .whole q p) (hq : q.Clean) (hraw : q.bindings.RawFree)
    (hshows : usage = .exact → q.ShowsProjection) : CompiledTwin usage lit q p where
  rawFree := hraw
  bound := h.bound_eq_nil
  text d hd s hs := by
    obtain ⟨t, shown, rest, ht, hfills, hrest, _, hnone, hsome⟩ := h.renders hq hd hs
    refine ⟨t, ht, shown ++ rest, ?_, hfills⟩
    rw [q.bound_eq]
    refine Usage.Uses.append ?_ hrest
    by_cases haggregate : q.aggregate = none
    · exact hnone haggregate
    · -- an aggregate shows no columns; only if nothing is bound to them is nothing left over
      rw [hsome haggregate]
      cases usage with
      | exact => exact ((hshows rfl).resolve_left haggregate).symm
      | loose => exact List.nil_sublist _

end FluentSql
