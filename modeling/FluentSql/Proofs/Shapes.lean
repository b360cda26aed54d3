import FluentSql.Proofs.Chain

/-!
# `Shapes` — one condition in several shapes

What a comparison asks for can be given as an equality, as an entry of a list or in a call of its own. The
shapes agree: equalities are a chain of comparisons, entries are one on a statement of their own, whose
conditions become a group. So they also fail alike. Whether an element fails depends on the element alone,
not on the statement that it is added to, and of a list the first one that fails decides the error.

## Contents
- `OperandRefused` and `EntryRefused`, what is refused and with which error.
- `DecidedBy`, a step that fails as a relation says or adds one condition; `decidedBy_compare` and
  `decidedBy_whereTriple`.
- `FirstRefused` and `Statement.foldlM_eq_error_iff`, the first of a list.
- `Statement.whereCondition_shapes`, the main result.
-/

namespace FluentSql

/-! ## What is refused -/

/-- A recognised operator takes no list, and null by equality and inequality only. -/
inductive OperandRefused (column : Reference) (operator : String) : Operand → Error → Prop where
  | list {values : List Value} (hoperator : isOperator operator = true) :
      OperandRefused column operator (.list values) (.listOperand column)
  | null (hoperator : isOperator operator = true) (hequal : operator ≠ "=")
      (hunequal : operator ≠ "!=") (hunequal' : operator ≠ "<>") :
      OperandRefused column operator (.value .null) (.nullComparison column operator)

/-- An entry has three elements, of which the first two are texts; the third is an operand. -/
inductive EntryRefused : List Operand → Error → Prop where
  | length {entry : List Operand} (h : entry.length ≠ 3) :
      EntryRefused entry (.conditionLength entry.length)
  | column {column operator operand : Operand} (h : column.text? = none) :
      EntryRefused [column, operator, operand] .conditionColumn
  | operator {column operator operand : Operand} {name : String} (hcolumn : column.text? = some name)
      (h : operator.text? = none) : EntryRefused [column, operator, operand] .conditionOperator
  | operand {column operator operand : Operand} {name token : String} {e : Error}
      (hcolumn : column.text? = some name) (hoperator : operator.text? = some token)
      (h : OperandRefused (.named name) token operand e) :
      EntryRefused [column, operator, operand] e

/-- A text that is no operator is an operand itself, and nothing is refused. -/
theorem not_operandRefused {column : Reference} {operator : String} {operand : Operand} {e : Error}
    (h : isOperator operator = false) : ¬ OperandRefused column operator operand e := by
  rintro (hoperator | hoperator) <;> exact absurd (h.symm.trans hoperator) (by decide)

/-- With texts for a column and an operator, it is the operand that counts. -/
theorem entryRefused_iff_of_text {column operator operand : Operand} {name token : String} {e : Error}
    (hcolumn : column.text? = some name) (hoperator : operator.text? = some token) :
    EntryRefused [column, operator, operand] e ↔ OperandRefused (.named name) token operand e := by
  refine ⟨fun h => ?_, fun h => .operand hcolumn hoperator h⟩
  cases h with
  | length h => exact absurd rfl h
  | column h => exact nomatch hcolumn.symm.trans h
  | operator _ h => exact nomatch hoperator.symm.trans h
  | operand hcolumn' hoperator' h =>
    obtain rfl := Option.some.inj (hcolumn.symm.trans hcolumn')
    obtain rfl := Option.some.inj (hoperator.symm.trans hoperator')
    exact h

/-- A list as an operand is not supported, all else is a mistake in the construction. -/
theorem EntryRefused.kind {entry : List Operand} {e : Error} (h : EntryRefused entry e) :
    (∃ column, e = .listOperand column ∧ e.kind = .unsupported) ∨ e.kind = .construction := by
  cases h with
  | length | column | operator => exact .inr rfl
  | operand _ _ h =>
    cases h with
    | list => exact .inl ⟨_, rfl, rfl⟩
    | null => exact .inr rfl

/-- The step fails with an error exactly if it is refused with it, whatever the statement. Otherwise the
    statement has one condition more at the end, and the values of that condition, raw ones left out, are
    bound behind those of the conditions before it; all else stays. -/
structure DecidedBy (connector : Connector) (refused : Error → Prop)
    (step : Statement → Except Error Statement) : Prop where
  error : ∀ q e, step q = .error e ↔ refused e
  adds : (∀ e, ¬ refused e) → ∃ (p : Predicate) (values : List Value), ∀ q : Statement,
    step q = .ok { q with
      wheres := q.wheres ++ [⟨connector, p⟩]
      bindings := { q.bindings with filter := q.bindings.filter ++ Value.withoutRaw values } }

namespace DecidedBy

variable {connector : Connector} {refused : Error → Prop} {step : Statement → Except Error Statement}

/-- A step that is refused. -/
theorem of_refused {e : Error} (h : refused e) (honly : ∀ e', refused e' → e' = e)
    (hstep : ∀ q, step q = .error e) : DecidedBy connector refused step where
  error q e' := by
    rw [hstep]
    constructor
    · intro he
      exact Except.error.inj he ▸ h
    · intro he
      rw [honly e' he]
  adds hnone := absurd h (hnone e)

/-- A step that is not refused. -/
theorem of_adds {p : Predicate} {values : List Value} (hnone : ∀ e, ¬ refused e)
    (hstep : ∀ q, step q = .ok (q.addWhere connector p values)) :
    DecidedBy connector refused step where
  error q e := by
    rw [hstep]
    exact ⟨nofun, fun h => absurd h (hnone e)⟩
  adds _ := ⟨p, values, hstep⟩

end DecidedBy

namespace Statement

variable {q : Statement} {connector : Connector} {column : Reference} {operator : String}

/-! ## One element -/

/-- A text that is no operator is the operand of an equality, whatever stands where the operand should
    be. -/
theorem compare_of_not_isOperator (h : isOperator operator = false) (operand : Operand) :
    q.compare connector column (some operator) (some operand) =
      .ok { q with
        wheres := q.wheres ++ [⟨connector, .comparison column "=" (.text operator)⟩]
        bindings := { q.bindings with filter := q.bindings.filter ++ [.text operator] } } := by
  have hmeant : resolveComparison column (some operator) (some operand) =
      .ok ("=", .value (.text operator)) := if_neg (by simp [h])
  rw [compare, hmeant]
  rfl

theorem compare_of_isOperator (h : isOperator operator = true) (operand : Operand) :
    q.compare connector column (some operator) (some operand) =
      q.compareOperand connector column operator operand := by
  have hmeant : resolveComparison column (some operator) (some operand) = .ok (operator, operand) :=
    if_pos h
  rw [compare, hmeant]
  rfl

/-- Null is compared by equality and inequality. -/
theorem decidedBy_compareNull (connector : Connector) (column : Reference)
    (hoperator : isOperator operator = true) :
    DecidedBy connector (OperandRefused column operator (.value .null)) fun q =>
      q.compareNull connector column operator := by
  by_cases hequal : operator = "="
  · have hnone : ∀ e, ¬ OperandRefused column operator (.value .null) e := by
      rintro e (_ | ⟨_, hdiffer, _, _⟩)
      exact hdiffer hequal
    exact .of_adds hnone fun q => if_pos hequal
  · by_cases hunequal : operator = "!=" ∨ operator = "<>"
    · have hnone : ∀ e, ¬ OperandRefused column operator (.value .null) e := by
        rintro e (_ | ⟨_, _, hdiffer, hdiffer'⟩)
        exact hunequal.elim hdiffer hdiffer'
      exact .of_adds hnone fun q => (if_neg hequal).trans (if_pos hunequal)
    · obtain ⟨hdiffer, hdiffer'⟩ := not_or.mp hunequal
      refine .of_refused (.null hoperator hequal hdiffer hdiffer') (fun e h => ?_) fun q =>
        (if_neg hequal).trans (if_neg hunequal)
      cases h
      rfl

/-- **A comparison** with an operator and an operand. -/
theorem decidedBy_compare (connector : Connector) (column : Reference) (operator : String)
    (operand : Operand) :
    DecidedBy connector (OperandRefused column operator operand) fun q =>
      q.compare connector column (some operator) (some operand) := by
  cases hoperator : isOperator operator with
  | false =>
    have hnone : ∀ e, ¬ OperandRefused column operator operand e := fun e =>
      not_operandRefused hoperator
    have hadds : ∀ q : Statement, q.compare connector column (some operator) (some operand) =
        .ok (q.addWhere connector (.comparison column "=" (.text operator)) [.text operator]) :=
      fun q => compare_of_not_isOperator hoperator operand
    exact .of_adds hnone hadds
  | true =>
    simp only [compare_of_isOperator hoperator]
    cases operand with
    | query query => exact .of_adds nofun fun q => rfl
    | list values =>
      refine .of_refused (.list hoperator) (fun e h => ?_) fun q => rfl
      cases h
      rfl
    | value value =>
      cases value with
      | null => exact decidedBy_compareNull connector column hoperator
      | _ => exact .of_adds nofun fun q => rfl

/-- An entry that has three elements, and texts for a column and an operator, is a comparison. -/
theorem whereTriple_of_text {column operator : Operand} {name token : String}
    (hcolumn : column.text? = some name) (hoperator : operator.text? = some token) (operand : Operand) :
    q.whereTriple [column, operator, operand] =
      q.compare .and (.named name) (some token) (some operand) := by
  rw [whereTriple, hcolumn, hoperator]

/-- **An entry.** -/
theorem decidedBy_whereTriple (entry : List Operand) :
    DecidedBy .and (EntryRefused entry) fun q => q.whereTriple entry := by
  by_cases hlength : entry.length = 3
  · obtain ⟨column, operator, operand, rfl⟩ := List.length_eq_three.mp hlength
    cases hcolumn : column.text? with
    | none =>
      refine .of_refused (.column hcolumn) (fun e h => ?_) fun q => by rw [whereTriple, hcolumn]
      cases h with
      | length h => exact absurd hlength h
      | column => rfl
      | operator h | operand h => exact nomatch hcolumn.symm.trans h
    | some name =>
      cases hoperator : operator.text? with
      | none =>
        refine .of_refused (.operator hcolumn hoperator) (fun e h => ?_) fun q => by
          rw [whereTriple, hcolumn, hoperator]
        cases h with
        | length h => exact absurd hlength h
        | column h => exact nomatch hcolumn.symm.trans h
        | operator => rfl
        | operand _ h => exact nomatch hoperator.symm.trans h
      | some token =>
        have hcompare := decidedBy_compare .and (.named name) token operand
        simp only [whereTriple_of_text hcolumn hoperator]
        refine ⟨fun q e => ?_, fun hnone => hcompare.adds fun e h => hnone e ?_⟩
        · rw [entryRefused_iff_of_text hcolumn hoperator]
          exact hcompare.error q e
        · exact (entryRefused_iff_of_text hcolumn hoperator).mpr h
  · have hstep : ∀ q : Statement, q.whereTriple entry = .error (.conditionLength entry.length) := by
      intro q
      unfold whereTriple
      split
      · exact absurd rfl hlength
      · rfl
    refine .of_refused (.length hlength) (fun e h => ?_) hstep
    cases h with
    | length => rfl
    | column | operator | operand => exact absurd rfl hlength

end Statement

/-! ## The first of a list -/

/-- The first element that is refused is refused with the error. -/
def FirstRefused {α : Type} (refused : α → Error → Prop) (xs : List α) (e : Error) : Prop :=
  ∃ before x after, xs = before ++ x :: after ∧ (∀ y ∈ before, ∀ e', ¬ refused y e') ∧ refused x e

namespace FirstRefused

variable {α : Type} {refused : α → Error → Prop} {x : α} {xs : List α} {e : Error}

theorem not_nil : ¬ FirstRefused refused [] e := by
  rintro ⟨before, x, after, hxs, _⟩
  exact absurd hxs (by simp)

/-- If the head is refused, it is the first. -/
theorem cons_of_refused {e' : Error} (hx : refused x e') :
    FirstRefused refused (x :: xs) e ↔ refused x e := by
  constructor
  · rintro ⟨before, y, after, hxs, hbefore, hy⟩
    cases before with
    | nil =>
      obtain ⟨rfl, _⟩ := List.cons.inj hxs
      exact hy
    | cons z before =>
      obtain ⟨rfl, _⟩ := List.cons.inj hxs
      exact absurd hx (hbefore x List.mem_cons_self e')
  · intro h
    exact ⟨[], x, xs, rfl, nofun, h⟩

/-- Otherwise it is among the others. -/
theorem cons_of_not (hx : ∀ e', ¬ refused x e') :
    FirstRefused refused (x :: xs) e ↔ FirstRefused refused xs e := by
  constructor
  · rintro ⟨before, y, after, hxs, hbefore, hy⟩
    cases before with
    | nil =>
      obtain ⟨rfl, _⟩ := List.cons.inj hxs
      exact absurd hy (hx e)
    | cons z before =>
      obtain ⟨_, rfl⟩ := List.cons.inj hxs
      exact ⟨before, y, after, rfl, fun y hy => hbefore y (List.mem_cons_of_mem _ hy), hy⟩
  · rintro ⟨before, y, after, rfl, hbefore, hy⟩
    exact ⟨x :: before, y, after, rfl, List.forall_mem_cons.mpr ⟨hx, hbefore⟩, hy⟩

end FirstRefused

namespace Statement

variable {q : Statement}

/-- **A list of conditions** fails with the error of the first that is refused, and only then. -/
theorem foldlM_eq_error_iff {α : Type} {refused : α → Error → Prop}
    {step : Statement → α → Except Error Statement} (hstep : ∀ x, DecidedBy .and (refused x) (step · x))
    {xs : List α} {e : Error} : xs.foldlM step q = .error e ↔ FirstRefused refused xs e := by
  induction xs generalizing q with
  | nil => exact ⟨nofun, fun h => absurd h FirstRefused.not_nil⟩
  | cons x xs ih =>
    rw [List.foldlM_cons]
    by_cases hx : ∃ e', refused x e'
    · obtain ⟨e', hx⟩ := hx
      rw [FirstRefused.cons_of_refused hx, ← (hstep x).error q e, ((hstep x).error q e').mpr hx]
      rfl
    · have hnone := not_exists.mp hx
      obtain ⟨p, values, hadds⟩ := (hstep x).adds hnone
      rw [FirstRefused.cons_of_not hnone, hadds q]
      exact ih

/-! ## All shapes -/

variable (q) (connector : Connector)

/-- Equalities are a chain of comparisons. -/
theorem whereCondition_equalities (pairs : List (String × Operand)) :
    q.whereCondition connector (.equalities pairs) =
      q.applyAll (pairs.map fun pair =>
        .compare .and (.named pair.1) (some "=") (some pair.2)) := by
  rw [applyAll, List.foldlM_map]
  rfl

/-- Entries are added to a statement of their own, whose conditions become a group. -/
theorem whereCondition_triples (entries : List (List Operand)) :
    q.whereCondition connector (.triples entries) =
      (entries.foldlM whereTriple q.newQuery).map fun group => q.whereGroup connector group := by
  rw [whereCondition, whereTriples]
  cases entries.foldlM whereTriple q.newQuery <;> rfl

theorem map_eq_error {α β : Type} {x : Except Error α} {f : α → β} {e : Error} :
    x.map f = .error e ↔ x = .error e := by
  cases x <;> simp [Except.map]

/-- Null by equality is a null check, and by inequality the opposite. -/
theorem compare_null (column : Reference) :
    q.compare connector column (some "=") (some (.value .null)) =
        .ok (q.whereNull connector false column) ∧
      ∀ operator, operator = "!=" ∨ operator = "<>" →
        q.compare connector column (some operator) (some (.value .null)) =
          .ok (q.whereNull connector true column) := by
  refine ⟨compare_of_isOperator (by decide) _, ?_⟩
  rintro operator (rfl | rfl)
  · exact compare_of_isOperator (by decide) _
  · exact compare_of_isOperator (by decide) _

/-- **The shapes agree**, with their errors. Equalities are the chain of their comparisons, and entries are
    one group of the conditions that they add, one after the other, to a statement without clauses; without
    entries, nothing is added. A list fails with the error of its first element that is refused. An entry
    is refused exactly as `EntryRefused` says, and is else the comparison of its elements; a comparison is
    refused exactly as `OperandRefused` says, and adds one condition otherwise. With null it is a null
    check. -/
theorem whereCondition_shapes :
    (∀ pairs : List (String × Operand),
      q.whereCondition connector (.equalities pairs) =
        q.applyAll (pairs.map fun pair =>
          .compare .and (.named pair.1) (some "=") (some pair.2)) ∧
      ∀ e, q.whereCondition connector (.equalities pairs) = .error e ↔
        FirstRefused (fun pair : String × Operand => OperandRefused (.named pair.1) "=" pair.2) pairs e) ∧
    (∀ entries : List (List Operand),
      q.whereCondition connector (.triples entries) =
        (entries.foldlM whereTriple q.newQuery).map (fun group => q.whereGroup connector group) ∧
      ∀ e, q.whereCondition connector (.triples entries) = .error e ↔
        FirstRefused EntryRefused entries e) ∧
    q.whereCondition connector (.triples []) = .ok q ∧
    (∀ entry, DecidedBy .and (EntryRefused entry) fun q => q.whereTriple entry) ∧
    (∀ entry e, EntryRefused entry e →
      (∃ column, e = .listOperand column ∧ e.kind = .unsupported) ∨ e.kind = .construction) ∧
    (∀ (column operator operand : Operand) (name token : String), column.text? = some name →
      operator.text? = some token →
      q.whereTriple [column, operator, operand] =
        q.compare .and (.named name) (some token) (some operand)) ∧
    ∀ column : Reference,
      (∀ operator operand, DecidedBy connector (OperandRefused column operator operand) fun q =>
        q.compare connector column (some operator) (some operand)) ∧
      (∀ operator operand, isOperator operator = false →
        q.compare connector column (some operator) (some operand) =
          .ok { q with
            wheres := q.wheres ++ [⟨connector, .comparison column "=" (.text operator)⟩]
            bindings := { q.bindings with filter := q.bindings.filter ++ [.text operator] } }) ∧
      q.compare connector column (some "=") (some (.value .null)) =
        .ok (q.whereNull connector false column) ∧
      ∀ operator, operator = "!=" ∨ operator = "<>" →
        q.compare connector column (some operator) (some (.value .null)) =
          .ok (q.whereNull connector true column) := by
  refine ⟨fun pairs => ⟨q.whereCondition_equalities connector pairs, fun e => ?_⟩,
    fun entries => ⟨q.whereCondition_triples connector entries, fun e => ?_⟩, rfl, ?_, ?_, ?_,
    fun column => ⟨?_, ?_, q.compare_null connector column⟩⟩
  · exact foldlM_eq_error_iff fun pair : String × Operand =>
      decidedBy_compare .and (.named pair.1) "=" pair.2
  · rw [whereCondition_triples, map_eq_error]
    exact foldlM_eq_error_iff decidedBy_whereTriple
  · exact decidedBy_whereTriple
  · exact fun entry e h => h.kind
  · intro column operator operand name token hcolumn hoperator
    exact whereTriple_of_text hcolumn hoperator operand
  · exact decidedBy_compare connector column
  · exact fun operator operand hoperator => compare_of_not_isOperator hoperator operand

end Statement

/-! ## Goods by price and name -/

/-- A price without an operator, and a price that is compared with null; the last entry is too short. -/
def mistakenEntries : List (List Operand) :=
  [[.value (.text "price"), .value (.text "cheap"), .list []],
    [.value (.text "price"), .value (.text "<"), .value .null],
    [.value (.text "name")]]

/-- The first entry is an equality with a text, whatever its third element, and the second one decides the
    error. -/
theorem whereCondition_shapes_mistakenEntries :
    let goods := Statement.fresh {}
    goods.whereCondition .or (.triples mistakenEntries) =
      .error (.nullComparison (.named "price") "<") ∧
    Error.kind (.nullComparison (.named "price") "<") = .construction ∧
    (∃ p values, goods.whereTriple [.value (.text "price"), .value (.text "cheap"), .list []] =
      .ok { goods with wheres := [⟨.and, p⟩], bindings := { filter := Value.withoutRaw values } }) ∧
    goods.whereTriple [.value (.text "price"), .value (.text "<"), .value .null] =
      goods.compare .and (.named "price") (some "<") (some (.value .null)) ∧
    goods.compare .or (.named "price") (some "cheap") (some (.list [])) =
      .ok { goods with
        wheres := [⟨.or, .comparison (.named "price") "=" (.text "cheap")⟩]
        bindings := { filter := [.text "cheap"] } } ∧
    goods.compare .or (.named "price") (some "<>") (some (.value .null)) =
      .ok (goods.whereNull .or true (.named "price")) := by
  intro goods
  obtain ⟨_, hentries, _, hentry, hkind, htext, hcompare⟩ := goods.whereCondition_shapes .or
  obtain ⟨_, hvalue, _, hunequal⟩ := hcompare (.named "price")
  -- the first entry is not refused, and the second one is
  have hfirst : ∀ e, ¬ EntryRefused [.value (.text "price"), .value (.text "cheap"), .list []] e :=
    fun e h => not_operandRefused (by decide) ((entryRefused_iff_of_text rfl rfl).mp h)
  have hsecond : EntryRefused [.value (.text "price"), .value (.text "<"), .value .null]
      (.nullComparison (.named "price") "<") :=
    .operand rfl rfl (.null (by decide) (by decide) (by decide) (by decide))
  refine ⟨?_, ?_, ?_, ?_, ?_, ?_⟩
  · refine ((hentries mistakenEntries).2 _).mpr ⟨[_], _, [_], rfl, ?_, hsecond⟩
    exact List.forall_mem_singleton.mpr hfirst
  · rcases hkind _ _ hsecond with ⟨column, hlist, _⟩ | hkind
    · cases hlist
    · exact hkind
  · obtain ⟨p, values, hadds⟩ := (hentry _).adds hfirst
    exact ⟨p, values, hadds goods⟩
  · exact htext _ _ _ "price" "<" rfl rfl
  · exact hvalue "cheap" _ (by decide)
  · exact hunequal "<>" (.inr rfl)

end FluentSql
