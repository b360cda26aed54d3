import FluentSql.Proofs.Filtered
import FluentSql.Proofs.Sending
import FluentSql.Proofs.Truth

/-!
# `Identified` — reading or deleting the row with an identifier

`find` and `deleteById` add a condition on the identifier by AND at the end of the conditions that are
there. AND binds tighter than OR: of a disjunction, the new condition restricts the last disjunct alone,
and rows that meet an earlier one are read or deleted whatever their identifier.

## Contents
- `Statement.withId_eq`, the statement that is sent, and `sends_find`, `sends_deleteById`.
- `Statement.identified_iff`, when its conditions imply the one on the identifier.
- `Statement.find_deleteById_iff`, for both operations and what they send.
-/

namespace FluentSql

/-- The condition on the identifier. -/
def idPredicate (id : Value) : Predicate :=
  .comparison (.named "id") "=" id

namespace Statement

variable {q : Statement} {id : Value}

/-- The statement with a condition on the identifier. -/
def identified (q : Statement) (id : Value) : Statement :=
  q.addWhere .and (idPredicate id) [id]

theorem withId_eq (hid : id ≠ .null) (q : Statement) : q.withId id = .ok (q.identified id) := by
  cases id with
  | null => exact absurd rfl hid
  | _ => rfl

/-- Reading the row with an identifier sends a SELECT of one row. -/
theorem sends_find (hid : id ≠ .null) (q : Statement) :
    Sends (q.find id : ExceptT Error Scripted (Option Record))
      (sentOf ((q.identified id).limit 1).selectBuilt) :=
  .lift_bind (withId_eq hid q) (sends_first _)

/-- Deleting the row with an identifier sends a DELETE. -/
theorem sends_deleteById (hid : id ≠ .null) (q : Statement) :
    Sends (q.deleteById id : ExceptT Error Scripted Nat) (sentOf (q.identified id).deleteBuilt) :=
  .lift_bind (withId_eq hid q) (sends_delete _)

/-- The number of rows taken is no matter of conditions. -/
theorem holds_limit (v : Predicate → Prop) (q : Statement) (n : Int64) :
    (q.limit n).Holds v = q.Holds v := by
  rw [holds_eq, holds_eq]
  unfold Statement.limit modifyTail
  split <;> rfl

/-- **The conditions that are sent.** The one on the identifier restricts the last disjunct of the others
    alone. -/
theorem holds_identified (v : Predicate → Prop) (q : Statement) (id : Value) :
    (q.identified id).Holds v ↔
      Earlier (truths v q.wheres) ∨ (Last (truths v q.wheres) ∧ v (idPredicate id)) := by
  have hwheres : (q.identified id).wheres = q.wheres ++ [⟨.and, idPredicate id⟩] := rfl
  rw [holds_eq, hwheres, truths_append]
  exact connected_concat_and

/-- The worst case is a row that meets every condition but the one on the identifier: truth of atoms only
    ever adds rows. -/
theorem identified_iff (q : Statement) (id : Value) :
    (∀ v, (q.identified id).Holds v → v (idPredicate id)) ↔
      ¬ Earlier (truths (· ≠ idPredicate id) q.wheres) := by
  constructor
  · intro h hearlier
    -- the assignment that only the condition on the identifier fails
    exact h _ ((holds_identified _ q id).mpr (.inl hearlier)) rfl
  · intro hearlier v hholds
    by_contra hid
    -- if that condition fails, an earlier disjunct holds, and no atom in it is that condition
    rcases (holds_identified v q id).mp hholds with hv | ⟨_, hv⟩
    · refine hearlier (Earlier.mono (truths_mono (fun p hp => ?_) q.wheres) hv)
      rintro rfl
      exact hid hp
    · exact hid hv

/-- Where every condition holds, an earlier disjunct is one that is followed by OR. -/
theorem earlier_iff_exists_or {v : Predicate → Prop} (h : ∀ c ∈ q.wheres, c.predicate.Holds v) :
    Earlier (truths v q.wheres) ↔ ∃ c ∈ q.wheres.tail, c.connector = .or := by
  cases hwheres : q.wheres with
  | nil => simp [truths, Earlier]
  | cons first others =>
    rw [hwheres] at h
    have hfirst : first.predicate.Holds v := h first List.mem_cons_self
    have hothers : ∀ t ∈ truths v others, t.2 := by
      intro t ht
      obtain ⟨c, hc, rfl⟩ := mem_truths.mp ht
      exact h c (List.mem_cons_of_mem _ hc)
    cases first
    rw [truths, Earlier, earlierAfter_iff_of_true hfirst hothers, List.tail_cons]
    constructor
    · rintro ⟨t, ht, hor⟩
      obtain ⟨c, hc, rfl⟩ := mem_truths.mp ht
      exact ⟨c, hc, hor⟩
    · rintro ⟨c, hc, hor⟩
      exact ⟨_, mem_truths.mpr ⟨c, hc, rfl⟩, hor⟩

/-- Without OR there is no earlier disjunct. -/
theorem not_earlier_of_and {v : Predicate → Prop} (h : ∀ c ∈ q.wheres.tail, c.connector = .and) :
    ¬ Earlier (truths v q.wheres) := by
  cases hwheres : q.wheres with
  | nil => exact id
  | cons first others =>
    rw [hwheres, List.tail_cons] at h
    intro hearlier
    cases first
    rw [truths] at hearlier
    obtain ⟨t, ht, hor⟩ := EarlierAfter.exists_or hearlier
    obtain ⟨c, hc, rfl⟩ := mem_truths.mp ht
    cases (h c hc).symm.trans hor

/-- **Reading and deleting by identifier.** What is sent has the conditions of the statement with the one
    on the identifier added, and they imply it exactly if no disjunct before the last one can hold
    without it. They do so if no condition is joined by OR; and if each condition can hold without the
    one on the identifier, they do so only then. -/
theorem find_deleteById_iff {id : Value} (hid : id ≠ .null) (q : Statement) :
    ∃ q', q.withId id = .ok q' ∧
      Sends (q.find id) (sentOf (q'.limit 1).selectBuilt) ∧
      Sends (q.deleteById id) (sentOf q'.deleteBuilt) ∧
      (∀ v, (q'.limit 1).Holds v ↔ q'.Holds v) ∧
      ((∀ v, q'.Holds v → v (idPredicate id)) ↔
        ¬ Earlier (truths (· ≠ idPredicate id) q.wheres)) ∧
      ((∀ c ∈ q.wheres.tail, c.connector = .and) → ∀ v, q'.Holds v → v (idPredicate id)) ∧
      ((∀ c ∈ q.wheres, c.predicate.Holds (· ≠ idPredicate id)) →
        (∀ v, q'.Holds v → v (idPredicate id)) → ∀ c ∈ q.wheres.tail, c.connector = .and) := by
  refine ⟨q.identified id, withId_eq hid q, sends_find hid q, sends_deleteById hid q,
    fun v => by rw [holds_limit], identified_iff q id, fun hand => ?_, fun hholds hsafe c hc => ?_⟩
  · exact (identified_iff q id).mpr (not_earlier_of_and hand)
  · have hnone := mt (earlier_iff_exists_or hholds).mpr ((identified_iff q id).mp hsafe)
    cases hconnector : c.connector with
    | and => rfl
    | or => exact absurd ⟨c, hc, hconnector⟩ hnone

end Statement

/-! ## A disjunction -/

/-- The users that meet one of two conditions. -/
def eitherUser : Statement :=
  (((Statement.fresh {}).withTable (.named "users")).addWhere .and
    (.comparison (.named "a") "=" (.int 1)) [.int 1]).addWhere .or
    (.comparison (.named "b") "=" (.int 2)) [.int 2]

/-- Deleting a user by identifier deletes every user that meets the first condition: `DELETE FROM users
    WHERE a = ? OR b = ? AND id = ?`. -/
theorem eitherUser_deleteById :
    ∃ q built, eitherUser.withId (.int 5) = .ok q ∧ q.deleteBuilt = .ok built ∧
      built.bindings = [.int 1, .int 2, .int 5] ∧ Sends (eitherUser.deleteById (.int 5)) [built] ∧
      ∃ v, q.Holds v ∧ ¬ v (idPredicate (.int 5)) := by
  have hid : Value.int 5 ≠ .null := nofun
  obtain ⟨q, hq, _, hsends, _, _, _, honly⟩ := Statement.find_deleteById_iff hid eitherUser
  obtain ⟨built, hbuilt, hvalues⟩ : ∃ built,
      (eitherUser.withId (.int 5) >>= Statement.deleteBuilt) = .ok built ∧
        built.bindings = [.int 1, .int 2, .int 5] := ⟨_, rfl, rfl⟩
  rw [hq] at hbuilt
  have hholds : ∀ c ∈ eitherUser.wheres, c.predicate.Holds (· ≠ idPredicate (.int 5)) := by
    intro c hc
    have hwheres : eitherUser.wheres = [⟨.and, .comparison (.named "a") "=" (.int 1)⟩,
        ⟨.or, .comparison (.named "b") "=" (.int 2)⟩] := rfl
    rw [hwheres, List.mem_cons, List.mem_singleton] at hc
    rcases hc with rfl | rfl <;> simp [Predicate.Holds, idPredicate]
  refine ⟨q, built, hq, hbuilt, hvalues, hsends.of_ok hbuilt, ?_⟩
  by_contra hnone
  have hsafe : ∀ v, q.Holds v → v (idPredicate (.int 5)) := fun v hv =>
    by_contra fun hv' => hnone ⟨v, hv, hv'⟩
  cases honly hholds hsafe ⟨.or, .comparison (.named "b") "=" (.int 2)⟩ List.mem_cons_self

end FluentSql
