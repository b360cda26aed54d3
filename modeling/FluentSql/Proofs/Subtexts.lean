import FluentSql.Proofs.Depth
import FluentSql.Proofs.Leading
import FluentSql.Proofs.Unions

/-!
# `Subtexts` — the texts of embedded statements

Conditions and unions embed statements, and these do so again. The text of a statement holds the text of
each statement that it embeds, at any depth, as that statement is written on its own: there is one recursion,
and blanks are cut off at ends only. A group is an exception, which contributes conditions and has no
text of its own as a SELECT; but what its conditions embed has.

## Contents
- `Text.Within`, a text inside another one.
- `Predicate.Selects` and `Statement.Selects`, one step to a statement that is written as a SELECT.
- `Dialect.within_of_selects`, one step, and `Dialect.within_of_reachable`, any number of them.
-/

namespace FluentSql

/-! ## A text inside another one -/

namespace Text

/-- A text stands in another one. -/
def Within (t s : String) : Prop :=
  ∃ front behind, s = front ++ t ++ behind

namespace Within

variable {r s t : String}

theorem refl (t : String) : Within t t :=
  ⟨"", "", by simp⟩

theorem trans (h : Within r s) (h' : Within s t) : Within r t := by
  obtain ⟨front, behind, rfl⟩ := h
  obtain ⟨front', behind', rfl⟩ := h'
  exact ⟨front' ++ front, behind ++ behind', by simp only [String.append_assoc]⟩

theorem prepend (h : Within t s) (front : String) : Within t (front ++ s) :=
  h.trans ⟨front, "", by simp⟩

theorem append (h : Within t s) (behind : String) : Within t (s ++ behind) :=
  h.trans ⟨"", behind, by simp⟩

theorem join {texts : List String} (h : t ∈ texts) : Within t (String.join texts) := by
  obtain ⟨front, behind, rfl⟩ := List.append_of_mem h
  rw [String.join_append, String.join_cons]
  exact ((refl t).append _).prepend _

theorem empty (s : String) : Within "" s :=
  ⟨"", s, by simp⟩

theorem spaced (t : String) : Within t (spaced t) := by
  by_cases ht : t = ""
  · rw [ht]
    exact empty _
  · rw [spaced_of_ne ht]
    exact (refl t).prepend _

/-- Of texts in a row, only empty ones are left out. -/
theorem joinParts {texts : List String} (h : t ∈ texts) : Within t (joinParts texts) := by
  induction texts with
  | nil => exact absurd h List.not_mem_nil
  | cons s texts ih =>
    by_cases hs : s = ""
    · rw [hs, joinParts_empty_cons]
      rcases List.mem_cons.mp h with rfl | h
      · rw [hs]
        exact empty _
      · exact ih h
    · rw [joinParts_cons hs]
      rcases List.mem_cons.mp h with rfl | h
      · exact (refl t).append _
      · exact ((spaced t).trans (join (List.mem_map_of_mem h))).prepend _

/-- Cutting off blanks does not reach a text that ends with another character. -/
theorem trimEnd (h : Within t s) (hends : EndsSolid t) : Within t (trimEnd s) := by
  obtain ⟨front, behind, rfl⟩ := h
  rw [trimEnd_append (hends.prepend front)]
  exact ⟨front, _, rfl⟩

end Within

end Text

/-! ## One step -/

/-- The statement is written as a SELECT in the text of the condition. A group's own statement is not,
    but what its conditions select is. -/
inductive Predicate.Selects : Predicate → Statement → Prop
  | subquery {column operator query} : Selects (.subquery column operator query) query
  | existence {query negated} : Selects (.existence query negated) query
  | memberOf {column query negated} : Selects (.memberOf column query negated) query
  | group {query c e} (hc : c ∈ query.wheres) (he : Selects c.predicate e) : Selects (.group query) e

/-- The statement is written as a SELECT in the text of another one: in one of the conditions on rows or
    on groups, or as a member of the union. -/
def Statement.Selects (q e : Statement) : Prop :=
  (∃ c ∈ q.wheres ++ q.havings, c.predicate.Selects e) ∨ ∃ u ∈ q.unions, u.query = e

theorem SelectClause.mem_all (clause : SelectClause) : clause ∈ SelectClause.all := by
  cases clause <;> decide

namespace Dialect

variable {d : Dialect}

/-- Each condition has its line. -/
theorem mem_linesOf {criteria : List Criterion} {bodies : List String} (h : d.Bodies criteria bodies)
    {c : Criterion} (hc : c ∈ criteria) :
    ∃ body, d.predicateText c.predicate = .ok body ∧ (c.connector, body) ∈ linesOf criteria bodies := by
  induction h with
  | nil => exact absurd hc List.not_mem_nil
  | cons hbody _ ih =>
    rcases List.mem_cons.mp hc with rfl | hc
    · exact ⟨_, hbody, List.mem_cons_self⟩
    · obtain ⟨body, htext, hmem⟩ := ih hc
      exact ⟨body, htext, List.mem_cons_of_mem _ hmem⟩

/-- The body of a line stands in the row. -/
theorem within_bareFirst {lines : List (Connector × String)} {line : Connector × String}
    (h : line ∈ lines) : Text.Within line.2 (bareFirst lines) := by
  cases lines with
  | nil => exact absurd h List.not_mem_nil
  | cons first lines =>
    rw [bareFirst]
    rcases List.mem_cons.mp h with rfl | h
    · exact (Text.Within.refl _).append _
    · have hline : Text.Within line.2 (" " ++ line.1.word ++ " " ++ line.2) :=
        (Text.Within.refl _).prepend _
      exact (hline.trans (.join (List.mem_map.mpr ⟨line, h, rfl⟩))).prepend _

/-- **A condition.** Its text holds those of the statements that it selects. -/
theorem within_predicateText {p : Predicate} {e : Statement} (h : p.Selects e) {body : String}
    (hbody : d.predicateText p = .ok body) :
    ∃ sql, d.renderSelect e = .ok sql ∧ Text.Within sql body := by
  induction h generalizing body with
  | @subquery column operator query =>
    obtain ⟨sql, hsql, hbody⟩ := bind_eq_ok.mp hbody
    obtain rfl := Except.ok.inj hbody
    exact ⟨sql, hsql, ((Text.Within.refl sql).prepend _).append _⟩
  | @existence query negated =>
    obtain ⟨sql, hsql, hbody⟩ := bind_eq_ok.mp hbody
    obtain rfl := Except.ok.inj hbody
    exact ⟨sql, hsql, ((Text.Within.refl sql).prepend _).append _⟩
  | @memberOf column query negated =>
    obtain ⟨sql, hsql, hbody⟩ := bind_eq_ok.mp hbody
    obtain rfl := Except.ok.inj hbody
    exact ⟨sql, hsql, ((Text.Within.refl sql).prepend _).append _⟩
  | @group query c e hc _ ih =>
    obtain ⟨bodies, hbodies, rfl⟩ := d.predicateText_group_bareFirst.mp hbody
    obtain ⟨inner, hinner, hline⟩ := mem_linesOf hbodies hc
    obtain ⟨sql, hsql, hwithin⟩ := ih hinner
    exact ⟨sql, hsql, ((hwithin.trans (within_bareFirst hline)).prepend _).append _⟩

/-- **A clause of conditions.** -/
theorem within_renderCriteria {criteria : List Criterion} {c : Criterion} (hc : c ∈ criteria)
    {e : Statement} (he : c.predicate.Selects e) {keyword text : String}
    (htext : d.renderCriteria keyword criteria = .ok text) :
    ∃ sql, d.renderSelect e = .ok sql ∧ Text.Within sql text := by
  obtain ⟨bodies, hbodies, rfl⟩ :=
    (d.renderCriteria_bareFirst (List.ne_nil_of_mem hc)).mp htext
  obtain ⟨body, hbody, hline⟩ := mem_linesOf hbodies hc
  obtain ⟨sql, hsql, hwithin⟩ := within_predicateText he hbody
  exact ⟨sql, hsql, (hwithin.trans (within_bareFirst hline)).prepend _⟩

/-- Each member has its line. -/
theorem mem_memberLines {members : List UnionMember} {sqls : List String}
    (h : d.MemberSqls members sqls) {u : UnionMember} (hu : u ∈ members) :
    ∃ sql, d.renderSelect u.query = .ok sql ∧
      memberLine u.all sql ∈ List.zipWith (fun u sql => memberLine u.all sql) members sqls := by
  induction h with
  | nil => exact absurd hu List.not_mem_nil
  | cons hsql _ ih =>
    rcases List.mem_cons.mp hu with rfl | hu
    · exact ⟨_, hsql, List.mem_cons_self⟩
    · obtain ⟨sql, hsql', hmem⟩ := ih hu
      exact ⟨sql, hsql', List.mem_cons_of_mem _ hmem⟩

/-- **A union.** -/
theorem within_unions {q : Statement} {u : UnionMember} (hu : u ∈ q.unions) {text : String}
    (htext : d.renderClause q .unions = .ok text) :
    ∃ sql, d.renderSelect u.query = .ok sql ∧ Text.Within sql text := by
  obtain ⟨sqls, orders, hsqls, _, rfl⟩ :=
    (renderClause_unions_eq_ok_iff (List.ne_nil_of_mem hu)).mp htext
  obtain ⟨sql, hsql, hline⟩ := mem_memberLines hsqls hu
  have hmember : Text.Within sql (memberLine u.all sql) := (Text.Within.refl sql).prepend _
  exact ⟨sql, hsql, hmember.trans (.joinParts (List.mem_append_left _ hline))⟩

/-- Each clause of a list has its text. -/
theorem exists_of_mapM {f : SelectClause → Except Error String} {clauses : List SelectClause}
    {texts : List String} (h : clauses.mapM f = .ok texts) {clause : SelectClause}
    (hclause : clause ∈ clauses) : ∃ text, f clause = .ok text ∧ (clause, text) ∈ clauses.zip texts := by
  induction clauses generalizing texts with
  | nil => exact absurd hclause List.not_mem_nil
  | cons first clauses ih =>
    rw [List.mapM_cons] at h
    obtain ⟨text, htext, h⟩ := bind_eq_ok.mp h
    obtain ⟨rest, hrest, h⟩ := bind_eq_ok.mp h
    obtain rfl : text :: rest = texts := Except.ok.inj h
    rcases List.mem_cons.mp hclause with rfl | hclause
    · exact ⟨text, htext, List.mem_cons_self⟩
    · obtain ⟨text', htext', hmem⟩ := ih hrest hclause
      exact ⟨text', htext', List.mem_cons_of_mem _ hmem⟩

/-- Each clause has its text in the row. -/
theorem exists_clause_text {q : Statement} {row : String} (h : d.clausesInRow q = .ok row)
    (clause : SelectClause) :
    ∃ text, d.renderClause q clause = .ok text ∧ Text.Within text row := by
  obtain ⟨texts, htexts, rfl⟩ := map_eq_ok.mp h
  obtain ⟨text, htext, hmem⟩ := exists_of_mapM htexts clause.mem_all
  exact ⟨text, htext, .joinParts (List.of_mem_zip hmem).2⟩

/-- **One step.** -/
theorem within_of_selects {q e : Statement} (h : q.Selects e) {s : String}
    (hs : d.renderSelect q = .ok s) : ∃ sql, d.renderSelect e = .ok sql ∧ Text.Within sql s := by
  obtain ⟨row, hrow, rfl⟩ := renderSelect_eq_ok_iff.mp hs
  -- the text of the embedded statement stands in that of a clause
  have hclause : ∃ sql, d.renderSelect e = .ok sql ∧ Text.Within sql row := by
    rcases h with ⟨c, hc, he⟩ | ⟨u, hu, rfl⟩
    · rcases List.mem_append.mp hc with hc | hc
      · obtain ⟨text, htext, hwithin⟩ := exists_clause_text hrow .wheres
        obtain ⟨sql, hsql, hinner⟩ := within_renderCriteria hc he htext
        exact ⟨sql, hsql, hinner.trans hwithin⟩
      · obtain ⟨text, htext, hwithin⟩ := exists_clause_text hrow .havings
        obtain ⟨sql, hsql, hinner⟩ := within_renderCriteria hc he htext
        exact ⟨sql, hsql, hinner.trans hwithin⟩
    · obtain ⟨text, htext, hwithin⟩ := exists_clause_text hrow .unions
      obtain ⟨sql, hsql, hinner⟩ := within_unions hu htext
      exact ⟨sql, hsql, hinner.trans hwithin⟩
  obtain ⟨sql, hsql, hwithin⟩ := hclause
  exact ⟨sql, hsql, hwithin.trimEnd (endsSolid_renderSelect hsql)⟩

/-- **Any number of steps.** The text of a statement holds those of all statements that it embeds. -/
theorem within_of_reachable {q e : Statement} (h : Relation.ReflTransGen Statement.Selects q e)
    {s : String} (hs : d.renderSelect q = .ok s) :
    ∃ sql, d.renderSelect e = .ok sql ∧ Text.Within sql s := by
  induction h with
  | refl => exact ⟨s, hs, .refl s⟩
  | tail _ hstep ih =>
    obtain ⟨outer, houter, hwithin⟩ := ih
    obtain ⟨sql, hsql, hinner⟩ := within_of_selects hstep houter
    exact ⟨sql, hsql, hinner.trans hwithin⟩

end Dialect

end FluentSql
