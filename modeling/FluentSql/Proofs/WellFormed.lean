import FluentSql.Proofs.Alignment.Clauses
import FluentSql.Proofs.Depth

/-!
# `WellFormed` — what holds of every condition in a statement that calls build

Conditions on rows embed statements, which have conditions again. At every depth the operators are those
of the list, null is not compared, and a group has conditions. Its text is empty between the parentheses
in one case only: when its one condition is raw text, and the text is empty.

## Contents
- `Predicate.WellFormed`, and `Predicate.Admissible.wellFormed`, what calls add.
- `Statement.Sound`, well-formed at every depth: `Call.sound_apply` and `Chain.sound_build`.
- `predicateText_group_eq_iff`, groups without text, and `Chain.wellFormed_build`.
-/

namespace FluentSql

/-! ## Conditions at every depth -/

/-- Operators are recognised, null is not compared, and a group has conditions. -/
def Predicate.WellFormed : Predicate → Prop
  | .comparison _ operator value => isOperator operator = true ∧ value ≠ .null
  | .subquery _ operator _ => isOperator operator = true
  | .group query => query.wheres ≠ []
  | _ => True

/-- The conditions of a statement and of the statements in it, at every depth, are well-formed. -/
def Statement.Sound (q : Statement) : Prop :=
  ∀ e, Relation.ReflTransGen Statement.Embeds q e → ∀ c ∈ e.wheres, c.predicate.WellFormed

/-- **What calls add** is well-formed. -/
theorem Predicate.Admissible.wellFormed {embedded : List Statement} {p : Predicate}
    (h : p.Admissible embedded) : p.WellFormed := by
  cases h with
  | comparison hoperator hvalue => exact ⟨hoperator, hvalue⟩
  | subquery hoperator _ => exact hoperator
  | group hwheres _ _ => exact hwheres
  | entries hwheres _ _ _ => exact hwheres
  | raw | between | member | nullCheck | existence | memberOf => trivial

/-! ## Calls and chains -/

/-- **One call.** -/
theorem Call.sound_apply {q q' : Statement} {c : Call} (hq : q.Sound)
    (hembedded : ∀ e ∈ c.embedded, e.Sound) (h : c.apply q = .ok q') : q'.Sound := by
  have hcomes := Call.comesFrom_apply h
  refine hcomes.everywhere hq hembedded (fun _ _ hsound => hsound) (fun e hadds _ x hx => ?_)
    fun x hx => ?_
  · exact (hadds x hx).wellFormed
  · rcases hcomes.wheres x hx with hx | hx | ⟨e, he, hx⟩
    · exact hq q .refl x hx
    · exact hx.wellFormed
    · exact hembedded e he e .refl x hx

/-- **A chain.** Every statement that calls build is sound. -/
theorem Chain.sound_build {chain : Chain} {q : Statement} (h : chain.build = .ok q) : q.Sound :=
  Chain.run_invariant (fun setting => Statement.everywhere_fresh setting nofun)
    (fun _ _ _ hq hembedded h => Call.sound_apply hq hembedded h) h

/-! ## Groups without text -/

variable {d : Dialect}

/-- Raw text alone can be empty. -/
theorem predicateText_eq_empty_iff {p : Predicate} : d.predicateText p = .ok "" ↔ p = .raw "" := by
  constructor
  · intro h
    cases p with
    | raw sql =>
      rw [Dialect.predicateText] at h
      rw [Except.ok.inj h]
    | comparison column operator value =>
      rw [Dialect.predicateText] at h
      obtain ⟨hhead, _⟩ := String.append_eq_empty_iff.mp (Except.ok.inj h)
      exact absurd (String.append_eq_empty_iff.mp hhead).2 (by decide)
    | between column low high negated =>
      rw [Dialect.predicateText] at h
      obtain ⟨hhead, _⟩ := String.append_eq_empty_iff.mp (Except.ok.inj h)
      exact absurd (String.append_eq_empty_iff.mp hhead).2 (by decide)
    | member column values negated =>
      rw [Dialect.predicateText, Dialect.renderMember] at h
      have htext := Except.ok.inj h
      split at htext
      · split at htext <;> exact absurd htext (by decide)
      · exact absurd (String.append_eq_empty_iff.mp htext).2 (by decide)
    | nullCheck column negated =>
      rw [Dialect.predicateText] at h
      exact absurd (String.append_eq_empty_iff.mp (Except.ok.inj h)).2 (by decide)
    | group query | subquery column operator query | existence query negated
    | memberOf column query negated =>
      -- a statement stands in parentheses
      rw [Dialect.predicateText] at h
      obtain ⟨text, _, h⟩ := bind_eq_ok.mp h
      exact absurd (String.append_eq_empty_iff.mp (Except.ok.inj h)).2 (by decide)
  · rintro rfl
    rfl

theorem criterionTexts_eq_nil {criteria : List Criterion} (h : d.criterionTexts criteria = .ok []) :
    criteria = [] := by
  cases criteria with
  | nil => rfl
  | cons c criteria =>
    rw [Dialect.criterionTexts] at h
    obtain ⟨_, _, h⟩ := bind_eq_ok.mp h
    obtain ⟨_, _, h⟩ := bind_eq_ok.mp h
    cases h

/-- Texts joined by a separator that is not empty are empty together only if there is one, and it is. -/
theorem intercalate_cons_eq_empty {sep text : String} {texts : List String} (hsep : sep ≠ "")
    (h : sep.intercalate (text :: texts) = "") : text = "" ∧ texts = [] := by
  cases texts with
  | nil => exact ⟨by simpa using h, rfl⟩
  | cons text' texts =>
    rw [String.intercalate_cons_cons] at h
    obtain ⟨hhead, _⟩ := String.append_eq_empty_iff.mp h
    exact absurd (String.append_eq_empty_iff.mp hhead).2 hsep

/-- **A group.** Nothing stands between its parentheses exactly if its one condition is an empty raw
    text. -/
theorem predicateText_group_eq_iff {g : Statement} (hg : g.wheres ≠ []) :
    d.predicateText (.group g) = .ok "()" ↔
      ∃ connector, g.wheres = [⟨connector, .raw ""⟩] := by
  constructor
  · intro h
    rw [Dialect.predicateText] at h
    obtain ⟨texts, htexts, h⟩ := bind_eq_ok.mp h
    have hbody : Dialect.conjoin texts = "" := by
      have hchars := congrArg String.toList (Except.ok.inj h)
      simpa [String.toList_append, String.toList_eq_nil_iff] using hchars
    cases g with
    | mk setting bindings aggregate columns distinct table joins wheres =>
      cases wheres with
      | nil => exact absurd rfl hg
      | cons c criteria =>
        rw [Dialect.groupTexts, Dialect.criterionTexts, criterionText_eq] at htexts
        obtain ⟨line, hline, htexts⟩ := bind_eq_ok.mp htexts
        obtain ⟨text, htext, hline⟩ := bind_eq_ok.mp hline
        obtain ⟨rest, hrest, htexts⟩ := bind_eq_ok.mp htexts
        obtain rfl : connected (c.connector, text) = line := Except.ok.inj hline
        obtain rfl : connected (c.connector, text) :: rest = texts := Except.ok.inj htexts
        -- without its connector, the first condition is all of the text
        rw [conjoin_cons] at hbody
        obtain ⟨rfl, rfl⟩ := intercalate_cons_eq_empty (by decide) hbody
        obtain rfl := criterionTexts_eq_nil hrest
        cases c with
        | mk connector predicate =>
          obtain rfl : predicate = .raw "" := predicateText_eq_empty_iff.mp htext
          exact ⟨connector, rfl⟩
  · rintro ⟨connector, hwheres⟩
    cases g
    obtain rfl := hwheres
    cases connector <;> rfl

/-- A group of one condition, which is raw text without any characters. -/
def blankGroup : Chain :=
  .call ((Chain.fresh {}).plain (.table (.named "goods"))) (.group .and (.fresh {}))
    fun _ => (Chain.fresh {}).plain (.whereRaw .and "" [])

/-- A group with a condition whose text is `()`: `SELECT * FROM goods WHERE ()`. -/
theorem blankGroup_text :
    ∃ q c g, blankGroup.build = .ok q ∧ c ∈ q.wheres ∧ c.predicate = .group g ∧ g.wheres ≠ [] ∧
      q.setting.dialect.predicateText (.group g) = .ok "()" ∧
      q.selectSql = .ok "SELECT * FROM \x60goods\x60 WHERE ()" :=
  ⟨_, _, _, rfl, List.mem_singleton.mpr rfl, rfl, List.cons_ne_nil _ _, rfl, rfl⟩

/-- **Conditions at every depth.** In a statement that calls build, and in every statement embedded in
    it by conditions and unions, operators are recognised, null is not compared, and groups have
    conditions; nothing stands between the parentheses of a group only if its one condition is an empty
    raw text. -/
theorem Chain.wellFormed_build {chain : Chain} {q e : Statement} (h : chain.build = .ok q)
    (he : Relation.ReflTransGen Statement.Embeds q e) {c : Criterion} (hc : c ∈ e.wheres) :
    c.predicate.WellFormed ∧
      ∀ g, c.predicate = .group g → ∀ d : Dialect, d.predicateText (.group g) = .ok "()" ↔
        ∃ connector, g.wheres = [⟨connector, .raw ""⟩] := by
  have hsound := Chain.sound_build h e he c hc
  refine ⟨hsound, fun g hg d => predicateText_group_eq_iff ?_⟩
  rw [hg] at hsound
  exact hsound

/-! ## Conditions inside a union inside a subquery -/

/-- The goods of all orders, or of those of a customer. The entry on the customer has a name where its
    operator should be. -/
def orderedGoodsInUnion : Chain :=
  let ofCustomer := (Chain.fresh {}).plain
    (.condition .and (.triples [[.value (.text "customer"), .value (.text "ann"), .value .null]]))
  let orders := Chain.call ((Chain.fresh {}).plain (.table (.named "orders"))) (.union true (.fresh {}))
    fun _ => ofCustomer
  .call ((Chain.fresh {}).plain (.table (.named "goods"))) (.membership .and false (.named "id")
    (.query (.fresh {}))) fun _ => orders

/-- A group two steps below the statement and a comparison three steps below it: `… id IN (SELECT * FROM
    orders UNION ALL SELECT * WHERE (customer = ?))`. -/
theorem wellFormed_orderedGoodsInUnion :
    ∃ q ofCustomer g c, orderedGoodsInUnion.build = .ok q ∧
      Relation.ReflTransGen Statement.Embeds q ofCustomer ∧
      Relation.ReflTransGen Statement.Embeds q g ∧
      ⟨.and, .group g⟩ ∈ ofCustomer.wheres ∧ g.wheres = [c] ∧
      c = ⟨.and, .comparison (.named "customer") "=" (.text "ann")⟩ ∧ c.predicate.WellFormed ∧
      ∀ d : Dialect, d.predicateText (.group g) ≠ .ok "()" := by
  obtain ⟨q, orders, ofCustomer, g, hq, hmember, hunion, hgroup, hcriterion⟩ :
      ∃ q orders ofCustomer g, orderedGoodsInUnion.build = .ok q ∧
        q.wheres = [⟨.and, .memberOf (.named "id") orders false⟩] ∧
        orders.unions = [⟨true, ofCustomer⟩] ∧ ofCustomer.wheres = [⟨.and, .group g⟩] ∧
        g.wheres = [⟨.and, .comparison (.named "customer") "=" (.text "ann")⟩] :=
    ⟨_, _, _, _, rfl, rfl, rfl, rfl, rfl⟩
  -- into the subquery, into the member of its union, and into the group
  have horders : Statement.Embeds q orders :=
    .inl ⟨_, hmember ▸ List.mem_singleton.mpr rfl, rfl⟩
  have hcustomer : Statement.Embeds orders ofCustomer :=
    .inr ⟨_, hunion ▸ List.mem_singleton.mpr rfl, rfl⟩
  have hin : ⟨.and, .group g⟩ ∈ ofCustomer.wheres := hgroup ▸ List.mem_singleton.mpr rfl
  have hpath : Relation.ReflTransGen Statement.Embeds q ofCustomer :=
    .head horders (.single hcustomer)
  have hdeep : Relation.ReflTransGen Statement.Embeds q g := hpath.tail (.inl ⟨_, hin, rfl⟩)
  obtain ⟨_, htext⟩ := Chain.wellFormed_build hq hpath hin
  obtain ⟨hcompared, _⟩ :=
    Chain.wellFormed_build hq hdeep (hcriterion ▸ List.mem_singleton.mpr rfl)
  refine ⟨q, ofCustomer, g, _, hq, hpath, hdeep, hin, hcriterion, rfl, hcompared, fun d hempty => ?_⟩
  obtain ⟨connector, hblank⟩ := (htext g rfl d).mp hempty
  cases hcriterion.symm.trans hblank

end FluentSql
