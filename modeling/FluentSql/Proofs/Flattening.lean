import FluentSql.Proofs.Routing

/-!
# `Flattening` — what the text of a union does not tell

A member of a union is written as it is, without parentheses. So its own order and paging, at the end of
its text, look like those of the whole union, and a union inside a member looks like further members.
What can make a difference are blanks alone, which raw text may bring to the end of the member's own
clauses: they are cut off at the end of the member's text, and not in the middle of it.

## Contents
- `Statement.Plain`, statements without union, order, paging and lock.
- `Dialect.clausesInRow_withTail` and `Dialect.renderSelect_of_members`, the texts of such a statement
  with a tail and with a union.
- `Dialect.spliced`, a member spliced into a union, and `Dialect.spliced_eq_iff`.
- `Statement.levels_eq_iff`, the settings of a member against those of the whole.
-/

namespace FluentSql

/-- The statement has no union, no order, no paging and no lock. -/
structure Statement.Plain (q : Statement) : Prop where
  tail : q.tail = {}
  unions : q.unions = []
  unionTail : q.unionTail = {}
  lock : q.lock = none

theorem Statement.Plain.alone_eq {q : Statement} (h : q.Plain) : q.alone = q := by
  obtain ⟨_, hunions, hunionTail, hlock⟩ := h
  cases q
  subst hunions hunionTail hlock
  rfl

/-! ## What the calls change -/

namespace Statement.Plain

variable {a b : Statement}

theorem union_eq (ha : a.Plain) (all : Bool) (b : Statement) :
    a.union all b =
      { a with bindings := (a.bind .union b.bound).bindings, unions := [⟨all, b⟩], unionTail := {} } := by
  rw [← ha.unionTail, union, ha.unions]
  rfl

theorem union_union_eq (ha : a.Plain) (all all' : Bool) (b c : Statement) :
    (a.union all b).union all' c =
      { a with
        bindings := ((a.union all b).bind .union c.bound).bindings
        unions := [⟨all, b⟩, ⟨all', c⟩]
        unionTail := {} } := by
  rw [ha.union_eq]
  rfl

/-- Without a union, the statement's own tail changes. -/
theorem modifyTail_eq (hb : b.Plain) (f : Tail → Tail) : b.modifyTail f = { b with tail := f {} } := by
  rw [modifyTail, hb.unions, hb.tail]
  rfl

/-- With a union, the tail of the union changes. -/
theorem modifyTail_union_eq (ha : a.Plain) (all : Bool) (b : Statement) (f : Tail → Tail) :
    (a.union all b).modifyTail f =
      { a with
        bindings := (a.bind .union b.bound).bindings
        unions := [⟨all, b⟩]
        unionTail := f {} } := by
  rw [ha.union_eq]
  rfl

end Statement.Plain

namespace Dialect

variable (d : Dialect) {a b : Statement}

/-! ## A statement with a tail, and with a union -/

/-- The clauses before the order of the rows. -/
def unordered : List SelectClause :=
  [.aggregate, .columns, .table, .joins, .wheres, .groups, .havings]

/-- Behind the clauses of a plain statement stands the tail that it is given. -/
theorem clausesInRow_withTail (hb : b.Plain) (tail : Tail) :
    d.clausesInRow { b with tail } = do
      let row ← d.clausesInRow b
      let orders ← d.renderOrders tail.orders
      return row ++ tailText orders tail := by
  have hall : ∀ q, d.clausesInRow q =
      d.rowOf q (unordered ++ [.orders, .limit, .offset, .unions, .lock]) := fun _ => rfl
  have hfront : d.rowOf { b with tail } unordered = d.rowOf b unordered := rfl
  rw [hall { b with tail }, hall b, unordered, rowOf_append, rowOf_append, ← unordered, hfront]
  cases d.rowOf b unordered with
  | error e => rfl
  | ok row =>
    obtain ⟨htail, hunions, hunionTail, hlock⟩ := hb
    have hplain : [SelectClause.orders, .limit, .offset, .unions, .lock].mapM (d.renderClause b) =
        .ok ["", "", "", "", ""] := by
      simp only [List.mapM_cons, List.mapM_nil, renderClause, htail, hunions, hlock]
      rfl
    simp only [hplain, List.mapM_cons, List.mapM_nil, renderClause, hunions, hlock]
    cases d.renderOrders tail.orders with
    | error e => rfl
    | ok orders =>
      refine congrArg Except.ok ?_
      simp [tailText, String.append_assoc]

/-- Behind the clauses of a plain statement stand the members of the union that it is given, and then
    the tail of the union. -/
theorem renderSelect_of_members (ha : a.Plain) (bindings : Bindings) {members : List UnionMember}
    (hne : members ≠ []) (unionTail : Tail) :
    d.renderSelect { a with bindings, unions := members, unionTail } = do
      let own ← d.clausesInRow a
      let lines ← d.memberTexts members
      let orders ← d.renderOrders unionTail.orders
      return own ++ String.join (lines.map Text.spaced) ++ tailText orders unionTail := by
  have halone : d.clausesInRow { a with bindings, unions := members, unionTail }.alone =
      d.clausesInRow a := by
    rw [← ha.alone_eq]
    rfl
  rw [renderSelect_eq_trimEnd, clausesInRow_eq, halone, renderClause]
  cases d.clausesInRow a with
  | error e => rfl
  | ok own =>
    cases hlines : d.memberTexts members with
    | error e => rfl
    | ok lines =>
      obtain ⟨line, rest, rfl⟩ : ∃ line rest, lines = line :: rest := by
        apply List.exists_cons_of_ne_nil
        rintro rfl
        have hempty := memberTexts_isEmpty hlines
        exact hne (List.isEmpty_iff.mp hempty.symm)
      simp only [renderUnions, ha.lock]
      cases horders : d.renderOrders unionTail.orders with
      | error e => rfl
      | ok orders =>
        refine congrArg Except.ok ?_
        obtain ⟨sqls, hsqls, heq⟩ := memberTexts_eq_ok_iff.mp hlines
        have hends : Text.EndsSolid (own ++ Text.spaced (Text.joinParts ((line :: rest) ++
            [orders, renderLimit unionTail.limit, renderOffset unionTail.offset]))) := by
          rw [heq, ← unionParts, spaced_unionParts hsqls]
          exact endsSolid_unionParts hne hsqls (endsSolid_renderOrders horders) unionTail own
        have hcut := (Text.trimEnd_eq_self_iff hends.ne_empty).mpr hends
        simp only [lockText, Option.map_none, Option.getD_none, Text.spaced_empty, String.append_empty]
        rw [hcut, Text.spaced_joinParts, List.map_append, String.join_append]
        simp [tailText, String.append_assoc]

/-- The same with one member. -/
theorem renderSelect_of_member (ha : a.Plain) (bindings : Bindings) (all : Bool) (query : Statement)
    (unionTail : Tail) :
    d.renderSelect { a with bindings, unions := [⟨all, query⟩], unionTail } = do
      let own ← d.clausesInRow a
      let sql ← d.renderSelect query
      let orders ← d.renderOrders unionTail.orders
      return own ++ Text.spaced (memberLine all sql) ++ tailText orders unionTail := by
  rw [d.renderSelect_of_members ha _ (List.cons_ne_nil _ _), memberTexts, memberTexts]
  cases d.clausesInRow a with
  | error e => rfl
  | ok own =>
    cases d.renderSelect query with
    | error e => rfl
    | ok sql =>
      cases d.renderOrders unionTail.orders with
      | error e => rfl
      | ok orders =>
        refine congrArg Except.ok ?_
        rw [← memberLine, List.map_singleton, String.join_cons, String.join_nil, String.append_empty]

/-- Nothing is cut off behind a tail that is not empty. -/
theorem renderSelect_withTail (hb : b.Plain) {tail : Tail} {orders : String}
    (horders : d.renderOrders tail.orders = .ok orders)
    (hends : Text.EndsSolid (tailText orders tail)) :
    d.renderSelect { b with tail } =
      (d.clausesInRow b).map fun row => row ++ tailText orders tail := by
  rw [renderSelect_eq_trimEnd, d.clausesInRow_withTail hb, horders]
  cases d.clausesInRow b with
  | error e => rfl
  | ok row =>
    have hrow := hends.prepend row
    exact congrArg Except.ok ((Text.trimEnd_eq_self_iff hrow.ne_empty).mpr hrow)

/-! ## A member among other texts -/

/-- A union of two statements: `cut` is what becomes of the clauses of the second one, and `behind` is
    what stands behind them. -/
def spliced (d : Dialect) (a b : Statement) (all : Bool) (cut : String → String)
    (behind : Except Error String) : Except Error String := do
  let own ← d.clausesInRow a
  let row ← d.clausesInRow b
  let more ← behind
  return own ++ Text.spaced (memberLine all (cut row)) ++ more

/-- The clauses of a statement have a text. -/
def Written (d : Dialect) (q : Statement) : Prop :=
  ∃ row, d.clausesInRow q = .ok row

/-- The clauses of a statement have a text, and there is a blank at its end. -/
def BlankBehind (d : Dialect) (q : Statement) : Prop :=
  ∃ row, d.clausesInRow q = .ok row ∧ ¬ Text.EndsSolid row

theorem written_iff {q : Statement} : d.Written q ↔ ∃ sql, d.renderSelect q = .ok sql := by
  simp only [Written, renderSelect_eq_ok_iff]
  constructor
  · rintro ⟨row, hrow⟩
    exact ⟨_, row, hrow, rfl⟩
  · rintro ⟨_, row, hrow, _⟩
    exact ⟨row, hrow⟩

theorem tailText_empty : tailText "" {} = "" :=
  rfl

theorem spaced_memberLine (all : Bool) (sql : String) :
    Text.spaced (memberLine all sql) = " " ++ memberLine all sql := by
  apply Text.spaced_of_ne
  intro hnil
  have hkeyword := (String.append_eq_empty_iff.mp hnil).1
  cases all <;> exact absurd hkeyword (by decide)

/-- **Blanks alone.** Cutting makes no difference, unless there are texts for all parts and there is a
    blank to cut off. -/
theorem spliced_eq_iff (all : Bool) (behind : Except Error String) :
    d.spliced a b all id behind = d.spliced a b all Text.trimEnd behind ↔
      ¬ (d.Written a ∧ d.BlankBehind b ∧ ∃ more, behind = .ok more) := by
  unfold spliced Written BlankBehind
  cases hown : d.clausesInRow a with
  | error e =>
    change Except.error e = Except.error e ↔ _
    refine iff_of_true rfl ?_
    rintro ⟨⟨row, hrow⟩, _⟩
    cases hrow
  | ok own =>
    cases hrow : d.clausesInRow b with
    | error e =>
      change Except.error e = Except.error e ↔ _
      refine iff_of_true rfl ?_
      rintro ⟨_, ⟨row, hrow, _⟩, _⟩
      cases hrow
    | ok row =>
      cases behind with
      | error e =>
        change Except.error e = Except.error e ↔ _
        refine iff_of_true rfl ?_
        rintro ⟨_, _, more, hmore⟩
        cases hmore
      | ok more =>
        have hne : row ≠ "" := (beginsSolid_clausesInRow hrow).ne_empty
        change Except.ok (own ++ Text.spaced (memberLine all row) ++ more) =
          Except.ok (own ++ Text.spaced (memberLine all (Text.trimEnd row)) ++ more) ↔ _
        rw [Except.ok.injEq, String.append_left_inj, String.append_right_inj, spaced_memberLine,
          spaced_memberLine, String.append_right_inj, memberLine, memberLine, String.append_right_inj,
          eq_comm, Text.trimEnd_eq_self_iff hne]
        constructor
        · rintro hends ⟨_, ⟨row', hrow', hblank⟩, _⟩
          cases hrow'
          exact hblank hends
        · intro hnot
          by_contra hblank
          exact hnot ⟨⟨own, rfl⟩, ⟨row, rfl, hblank⟩, more, rfl⟩

/-- The member brings what stands behind its clauses. -/
theorem renderSelect_union_spliced (ha : a.Plain) (all : Bool) {b' : Statement}
    {behind : Except Error String}
    (hb' : d.renderSelect b' = do
      let row ← d.clausesInRow b
      let more ← behind
      return row ++ more) :
    d.renderSelect (a.union all b') = d.spliced a b all id behind := by
  rw [ha.union_eq, d.renderSelect_of_member ha, hb', spliced]
  cases d.clausesInRow a with
  | error e => rfl
  | ok own =>
    cases d.clausesInRow b with
    | error e => rfl
    | ok row =>
      cases behind with
      | error e => rfl
      | ok more =>
        refine congrArg Except.ok ?_
        rw [tailText_empty, String.append_empty, spaced_memberLine, spaced_memberLine]
        simp only [memberLine, id, String.append_assoc]

/-- **A tail** of the member or of the union. -/
theorem modifyTail_eq_iff (ha : a.Plain) (hb : b.Plain) (all : Bool) {f : Tail → Tail} {orders : String}
    (horders : d.renderOrders (f {}).orders = .ok orders)
    (hends : Text.EndsSolid (tailText orders (f {}))) :
    d.renderSelect (a.union all (b.modifyTail f)) = d.renderSelect ((a.union all b).modifyTail f) ↔
      ¬ (d.Written a ∧ d.BlankBehind b) := by
  have hmember : d.renderSelect (a.union all (b.modifyTail f)) =
      d.spliced a b all id (.ok (tailText orders (f {}))) := by
    apply d.renderSelect_union_spliced ha
    rw [hb.modifyTail_eq, d.renderSelect_withTail hb horders hends]
    rfl
  have hwhole : d.renderSelect ((a.union all b).modifyTail f) =
      d.spliced a b all Text.trimEnd (.ok (tailText orders (f {}))) := by
    rw [ha.modifyTail_union_eq, d.renderSelect_of_member ha, renderSelect_eq_trimEnd, horders, spliced]
    cases d.clausesInRow a with
    | error e => rfl
    | ok own => cases d.clausesInRow b <;> rfl
  rw [hmember, hwhole, spliced_eq_iff]
  simp

/-- **A further member** of the union or of the member. -/
theorem union_union_eq_iff (ha : a.Plain) (hb : b.Plain) (all all' : Bool) (c : Statement) :
    d.renderSelect (a.union all (b.union all' c)) = d.renderSelect ((a.union all b).union all' c) ↔
      ¬ (d.Written a ∧ d.BlankBehind b ∧ d.Written c) := by
  have hmember : d.renderSelect (a.union all (b.union all' c)) =
      d.spliced a b all id
        ((d.renderSelect c).map fun sql => Text.spaced (memberLine all' sql)) := by
    apply d.renderSelect_union_spliced ha
    rw [hb.union_eq, d.renderSelect_of_member hb]
    cases d.clausesInRow b with
    | error e => rfl
    | ok row =>
      cases d.renderSelect c with
      | error e => rfl
      | ok sql =>
        refine congrArg Except.ok ?_
        rw [tailText_empty, String.append_empty]
  have hwhole : d.renderSelect ((a.union all b).union all' c) =
      d.spliced a b all Text.trimEnd
        ((d.renderSelect c).map fun sql => Text.spaced (memberLine all' sql)) := by
    rw [ha.union_union_eq, d.renderSelect_of_members ha _ (List.cons_ne_nil _ _), memberTexts,
      memberTexts, memberTexts, renderSelect_eq_trimEnd d b, spliced]
    cases d.clausesInRow a with
    | error e => rfl
    | ok own =>
      cases d.clausesInRow b with
      | error e => rfl
      | ok row =>
        cases d.renderSelect c with
        | error e => rfl
        | ok sql =>
          refine congrArg Except.ok ?_
          rw [← memberLine, ← memberLine, tailText_empty, String.append_empty, List.map_cons,
            List.map_singleton, String.join_cons, String.join_cons, String.join_nil,
            String.append_empty, String.append_assoc]
  have hmore : (∃ more, ((d.renderSelect c).map fun sql => Text.spaced (memberLine all' sql)) =
      .ok more) ↔ d.Written c := by
    simp only [written_iff, map_eq_ok]
    constructor
    · rintro ⟨_, sql, hsql, _⟩
      exact ⟨sql, hsql⟩
    · rintro ⟨sql, hsql⟩
      exact ⟨_, sql, hsql, rfl⟩
  rw [hmember, hwhole, spliced_eq_iff, hmore]

end Dialect

/-! ## Order, paging and further members -/

/-- **What is asked for of a member and of the whole.** In the text, a limit, an offset or an order of
    the last member is one of the union, and a union of the last member is a further member: there are the
    same texts or the same errors. Only if the texts have blanks at the end of the member's own clauses,
    they differ, and then they always do. -/
theorem Statement.levels_eq_iff {a b : Statement} (ha : a.Plain) (hb : b.Plain) (c : Statement)
    (all all' : Bool) (column : Reference) (direction : Direction) {n : Int64} (hn : 0 < n) :
    let d := a.setting.dialect
    ((a.union all (b.limit n)).selectSql = ((a.union all b).limit n).selectSql ↔
        ¬ (d.Written a ∧ d.BlankBehind b)) ∧
      ((a.union all (b.offset n)).selectSql = ((a.union all b).offset n).selectSql ↔
        ¬ (d.Written a ∧ d.BlankBehind b)) ∧
      ((a.union all (b.orderBy column direction)).selectSql =
          ((a.union all b).orderBy column direction).selectSql ↔
        ¬ (d.Written a ∧ d.BlankBehind b)) ∧
      ((a.union all (b.union all' c)).selectSql = ((a.union all b).union all' c).selectSql ↔
        ¬ (d.Written a ∧ d.BlankBehind b ∧ d.Written c)) := by
  intro d
  -- a change of the tail that is in force, on both levels
  have htail : ∀ {f : Tail → Tail} {orders : String}, d.renderOrders (f {}).orders = .ok orders →
      Text.EndsSolid (Dialect.tailText orders (f {})) →
      ((a.union all (b.modifyTail f)).selectSql = ((a.union all b).modifyTail f).selectSql ↔
        ¬ (d.Written a ∧ d.BlankBehind b)) := by
    intro f orders horders hends
    have hsetting : ((a.union all b).modifyTail f).setting = a.setting := by
      rw [ha.modifyTail_union_eq]
    rw [selectSql, selectSql, hsetting]
    exact d.modifyTail_eq_iff ha hb all horders hends
  have hcount : ∀ keyword, Text.EndsSolid (Dialect.renderCount keyword (some n)) := by
    intro keyword
    rw [Dialect.renderCount, if_pos hn]
    exact (Dialect.endsSolid_decimal _).prepend _
  refine ⟨?_, ?_, ?_, ?_⟩
  · apply htail rfl
    simpa [Dialect.tailText, Dialect.renderLimit, Dialect.renderOffset, Dialect.renderCount]
      using (hcount "LIMIT").spaced
  · apply htail rfl
    have hnot : ¬ n < 0 := Int64.not_lt.mpr (Int64.le_of_lt hn)
    simpa [Dialect.tailText, Dialect.renderLimit, Dialect.renderOffset, Dialect.renderCount, hnot]
      using (hcount "OFFSET").spaced
  · have horders : d.renderOrders [.column column direction] =
        .ok ("ORDER BY " ++ (d.quoteColumn column ++ " " ++ direction.word)) := by
      simp [Dialect.renderOrders, Dialect.renderOrder]
    have hends := (Dialect.endsSolid_renderOrders horders).resolve_left (by simp)
    apply htail horders
    simpa [Dialect.tailText, Dialect.renderLimit, Dialect.renderOffset, Dialect.renderCount]
      using hends.spaced
  · exact d.union_union_eq_iff ha hb all all' c

/-! ## Goods and old goods -/

/-- The goods of a list. -/
def listed (table : String) : Statement :=
  { Statement.fresh {} with table := some (.named table) }

/-- Old goods above a price, by a raw condition with a blank at its end. -/
def pricedGoods : Statement :=
  { listed "old" with wheres := [⟨.and, .raw "price > 9 "⟩] }

theorem plain_listed (table : String) : (listed table).Plain :=
  ⟨rfl, rfl, rfl, rfl⟩

/-- Neither a limit, an offset or an order nor the grouping of three lists shows its level. -/
theorem goodsOfThreeLists_sameText :
    (listed "goods").Plain ∧ (listed "old").Plain ∧ (listed "lost").Plain ∧
      ((listed "goods").union false ((listed "old").limit 5)).selectSql =
        .ok "SELECT * FROM \x60goods\x60 UNION SELECT * FROM \x60old\x60 LIMIT 5" ∧
      (((listed "goods").union false (listed "old")).limit 5).selectSql =
        .ok "SELECT * FROM \x60goods\x60 UNION SELECT * FROM \x60old\x60 LIMIT 5" ∧
      ((listed "goods").union false ((listed "old").offset 5)).selectSql =
        (((listed "goods").union false (listed "old")).offset 5).selectSql ∧
      ((listed "goods").union false ((listed "old").orderBy (.named "id") .ascending)).selectSql =
        (((listed "goods").union false (listed "old")).orderBy (.named "id") .ascending).selectSql ∧
      ((listed "goods").union true ((listed "old").union false (listed "lost"))).selectSql =
        (((listed "goods").union true (listed "old")).union false (listed "lost")).selectSql := by
  refine ⟨plain_listed _, plain_listed _, plain_listed _, ?_, ?_, ?_, ?_, ?_⟩
  all_goals decide +kernel

/-- Behind a blank that stays in the middle of one of the texts, all levels show. -/
theorem levels_pricedGoods :
    ((listed "goods").Plain ∧ pricedGoods.Plain ∧ (0 : Int64) < 5) ∧
      ((listed "goods").union false (pricedGoods.limit 5)).selectSql ≠
        (((listed "goods").union false pricedGoods).limit 5).selectSql ∧
      ((listed "goods").union true (pricedGoods.union false (listed "lost"))).selectSql ≠
        (((listed "goods").union true pricedGoods).union false (listed "lost")).selectSql := by
  have hplain : pricedGoods.Plain := ⟨rfl, rfl, rfl, rfl⟩
  have hpositive : (0 : Int64) < 5 := by decide
  have hgoods : Dialect.Written {} (listed "goods") :=
    ⟨"SELECT * FROM \x60goods\x60", by decide +kernel⟩
  have hlost : Dialect.Written {} (listed "lost") :=
    ⟨"SELECT * FROM \x60lost\x60", by decide +kernel⟩
  have hblank : Dialect.BlankBehind {} pricedGoods := by
    refine ⟨"SELECT * FROM \x60old\x60 WHERE price > 9 ", by decide +kernel, fun hends => ?_⟩
    exact absurd ((Text.trimEnd_eq_self_iff hends.ne_empty).mpr hends) (by decide +kernel)
  refine ⟨⟨plain_listed _, hplain, hpositive⟩, ?_, ?_⟩
  · obtain ⟨hlimit, _⟩ := Statement.levels_eq_iff (plain_listed "goods") hplain (listed "lost") false
      false (.named "id") .ascending hpositive
    exact fun hsame => hlimit.mp hsame ⟨hgoods, hblank⟩
  · obtain ⟨_, _, _, hunion⟩ := Statement.levels_eq_iff (plain_listed "goods") hplain (listed "lost") true
      false (.named "id") .ascending hpositive
    exact fun hsame => hunion.mp hsame ⟨hgoods, hblank, hlost⟩

end FluentSql
