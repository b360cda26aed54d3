import FluentSql.Proofs.Alignment.Clauses
import FluentSql.Proofs.Parts

/-!
# `Unions` — the text of a statement with a union

The members of a union, its tail and the lock of the statement are written behind everything else. So the
text of a statement with a union is the text that the statement has without it, and then, each with a
blank before it, the members in their order, the tail of the union and the lock. There is one thing to
watch: blanks are cut off at the ends of the whole text only. Those at the end of the statement's own
clauses, which raw text may bring, stay in the middle.

## Contents
- `Statement.alone`, a statement without its union, and `Dialect.clausesInRow`, a text before blanks are
  cut off.
- `Dialect.rowOf_append`, some clauses behind others, and `Dialect.clausesInRow_eq`, the text in three
  parts.
- `Dialect.endsSolid_renderSelect`, and what else ends with a character that is no blank.
- `Dialect.renderSelect_of_union`, the text part by part.
-/

namespace FluentSql

/-- The statement without the members and the tail of its union, and without its lock. -/
def Statement.alone (q : Statement) : Statement :=
  { q with unions := [], unionTail := {}, lock := none }

/-- The clauses that stand before the members of a union. -/
def SelectClause.own : List SelectClause :=
  [.aggregate, .columns, .table, .joins, .wheres, .groups, .havings, .orders, .limit, .offset]

namespace Dialect

variable {d : Dialect} {q : Statement}

/-! ## Clauses in a row -/

/-- The clauses of a SELECT in a row, before blanks at the ends are cut off. -/
def clausesInRow (d : Dialect) (q : Statement) : Except Error String :=
  (SelectClause.all.mapM (d.renderClause q)).map Text.joinParts

/-- The text of the lock, if there is one. -/
def lockText (d : Dialect) (lock : Option Lock) : String :=
  (lock.map d.renderLock).getD ""

theorem renderSelect_eq_trim (d : Dialect) (q : Statement) :
    d.renderSelect q = (d.clausesInRow q).map Text.trim := by
  rw [renderSelect_eq, clausesInRow]
  cases SelectClause.all.mapM (d.renderClause q) <;> rfl

/-- Some of the clauses of a SELECT in a row. -/
def rowOf (d : Dialect) (q : Statement) (clauses : List SelectClause) : Except Error String :=
  (clauses.mapM (d.renderClause q)).map Text.joinParts

/-- The clauses begin with the word `SELECT`: it is that of the aggregate or that of the columns. -/
theorem beginsSolid_rowOf {rest : List SelectClause} {row : String}
    (h : d.rowOf q (.aggregate :: .columns :: rest) = .ok row) : Text.BeginsSolid row := by
  have hword : Text.BeginsSolid "SELECT " := ⟨'S', _, rfl, by decide⟩
  obtain ⟨texts, htexts, rfl⟩ := map_eq_ok.mp h
  rw [List.mapM_cons] at htexts
  obtain ⟨_, haggregate, htexts⟩ := bind_eq_ok.mp htexts
  obtain ⟨_, h', htexts⟩ := bind_eq_ok.mp htexts
  rw [List.mapM_cons] at h'
  obtain ⟨_, hcolumns, h'⟩ := bind_eq_ok.mp h'
  obtain ⟨rest, _, h'⟩ := bind_eq_ok.mp h'
  obtain rfl := Except.ok.inj h'
  obtain rfl := Except.ok.inj htexts
  obtain rfl := Except.ok.inj haggregate
  obtain rfl := Except.ok.inj hcolumns
  unfold renderAggregate renderColumns
  cases q.aggregate with
  | none =>
    have hcolumns : Text.BeginsSolid (if q.distinct = true then "SELECT DISTINCT " else "SELECT ") := by
      cases q.distinct with
      | false => exact hword
      | true => exact ⟨'S', _, rfl, by decide⟩
    exact (hcolumns.append _).joinParts rest
  | some aggregate => exact ((((hword.append _).append _).append _).append _).joinParts _

/-- **More clauses** behind the first ones: each of them brings its blank. -/
theorem rowOf_append (d : Dialect) (q : Statement) (rest behind : List SelectClause) :
    d.rowOf q ((.aggregate :: .columns :: rest) ++ behind) = do
      let row ← d.rowOf q (.aggregate :: .columns :: rest)
      let texts ← behind.mapM (d.renderClause q)
      return row ++ String.join (texts.map Text.spaced) := by
  rw [rowOf, List.mapM_append, rowOf]
  cases hfront : (SelectClause.aggregate :: .columns :: rest).mapM (d.renderClause q) with
  | error e => rfl
  | ok texts =>
    have hbegins : Text.BeginsSolid (Text.joinParts texts) := by
      apply beginsSolid_rowOf
      rw [rowOf, hfront]
      rfl
    cases behind.mapM (d.renderClause q) with
    | error e => rfl
    | ok more => exact congrArg Except.ok (Text.joinParts_append hbegins.ne_empty more)

/-- **The text before blanks are cut off**, in three parts: the own clauses, which do not depend on the
    union, the union and the lock. -/
theorem clausesInRow_eq (d : Dialect) (q : Statement) :
    d.clausesInRow q = do
      let own ← d.clausesInRow q.alone
      let unions ← d.renderClause q .unions
      return own ++ Text.spaced unions ++ Text.spaced (d.lockText q.lock) := by
  have hall : ∀ q, d.clausesInRow q = d.rowOf q (SelectClause.own ++ [.unions, .lock]) := fun _ => rfl
  have hown : d.rowOf q.alone SelectClause.own = d.rowOf q SelectClause.own := rfl
  rw [hall q.alone, hall q, SelectClause.own, rowOf_append, rowOf_append, ← SelectClause.own, hown]
  cases d.rowOf q SelectClause.own with
  | error e => rfl
  | ok row =>
    -- without a union and a lock, the last two clauses are empty
    have halone : [SelectClause.unions, .lock].mapM (d.renderClause q.alone) = .ok ["", ""] := rfl
    simp only [halone, List.mapM_cons, List.mapM_nil]
    cases d.renderClause q .unions with
    | error e => rfl
    | ok unions =>
      refine congrArg Except.ok ?_
      simp only [List.map_cons, List.map_nil, String.join_cons, String.join_nil, Text.spaced_empty,
        String.append_empty, String.append_assoc]
      rfl

/-- The text before blanks are cut off, if there is one. -/
theorem clausesInRow_of_union {row : String} :
    d.clausesInRow q = .ok row ↔
      ∃ own unions, d.clausesInRow q.alone = .ok own ∧ d.renderClause q .unions = .ok unions ∧
        row = own ++ Text.spaced unions ++ Text.spaced (d.lockText q.lock) := by
  rw [clausesInRow_eq]
  constructor
  · intro h
    obtain ⟨own, hown, h⟩ := bind_eq_ok.mp h
    obtain ⟨unions, hunions, h⟩ := bind_eq_ok.mp h
    exact ⟨own, unions, hown, hunions, (Except.ok.inj h).symm⟩
  · rintro ⟨own, unions, hown, hunions, rfl⟩
    exact bind_eq_ok.mpr ⟨own, hown, bind_eq_ok.mpr ⟨unions, hunions, rfl⟩⟩

/-! ## What ends with a character that is no blank -/

/-- No digit is a blank. -/
theorem isBlank_of_isDigit {c : Char} (h : c.isDigit = true) : Text.isBlank c = false := by
  simp only [Char.isDigit, Bool.and_eq_true, decide_eq_true_eq] at h
  have hlow : 48 ≤ c.toNat := h.1
  have hhigh : c.toNat ≤ 57 := h.2
  simp [Text.isBlank, Text.blankRanges]
  omega

theorem endsSolid_repr (n : Nat) : Text.EndsSolid (Nat.repr n) := by
  have hne : Nat.toDigits 10 n ≠ [] := Nat.toDigits_ne_nil
  have hlast := Nat.isDigit_of_mem_toDigits (by decide) (by decide) (List.getLast_mem hne)
  refine ⟨(Nat.toDigits 10 n).dropLast, (Nat.toDigits 10 n).getLast hne, ?_, isBlank_of_isDigit hlast⟩
  rw [Nat.repr, String.toList_ofList, List.dropLast_append_getLast]

theorem endsSolid_decimal (n : Int) : Text.EndsSolid (Text.decimal n) := by
  cases n with
  | ofNat n => exact endsSolid_repr n
  | negSucc n => exact (endsSolid_repr (n + 1)).prepend "-"

theorem endsSolid_renderCount (keyword : String) (n : Option Int64) :
    renderCount keyword n = "" ∨ Text.EndsSolid (renderCount keyword n) := by
  cases n with
  | none => exact .inl rfl
  | some n =>
    rw [renderCount]
    split
    · exact .inr ((endsSolid_decimal _).prepend _)
    · exact .inl rfl

/-- An entry of an order ends with its direction. -/
theorem endsSolid_renderOrder {order : Order} {text : String} (h : d.renderOrder order = .ok text) :
    Text.EndsSolid text := by
  cases order with
  | raw sql => cases h
  | column column direction =>
    obtain rfl := Except.ok.inj h
    refine Text.EndsSolid.prepend ?_ _
    cases direction with
    | ascending => exact ⟨['A', 'S'], 'C', by decide, by decide⟩
    | descending => exact ⟨['D', 'E', 'S'], 'C', by decide, by decide⟩

theorem endsSolid_renderOrders {orders : List Order} {text : String}
    (h : d.renderOrders orders = .ok text) : text = "" ∨ Text.EndsSolid text := by
  unfold renderOrders at h
  split at h
  · obtain rfl := Except.ok.inj h
    exact .inl rfl
  · next hne =>
    obtain ⟨entries, hentries, h⟩ := bind_eq_ok.mp h
    obtain rfl := Except.ok.inj h
    refine .inr (Text.EndsSolid.prepend ?_ _)
    have hmapM : (orders.map d.renderOrder).mapM id = .ok entries := by
      rw [List.mapM_map]
      exact hentries
    have hentriesNe : entries ≠ [] := by
      rintro rfl
      have hlength := length_of_mapM hmapM
      rw [List.length_map] at hlength
      exact hne (by simpa using hlength.symm)
    have hmem : ∀ entry ∈ entries, Text.EndsSolid entry := by
      intro entry hentry
      obtain ⟨order, _, horder⟩ := List.mem_map.mp (mem_of_mapM hmapM hentry)
      exact endsSolid_renderOrder horder
    exact .intercalate ", " hentriesNe hmem

/-- The clauses in a row begin with a word. -/
theorem beginsSolid_clausesInRow {row : String} (h : d.clausesInRow q = .ok row) :
    Text.BeginsSolid row :=
  beginsSolid_rowOf h

/-- **The text of a SELECT** is its clauses in a row without the blanks at the end. -/
theorem renderSelect_eq_trimEnd (d : Dialect) (q : Statement) :
    d.renderSelect q = (d.clausesInRow q).map Text.trimEnd := by
  rw [renderSelect_eq_trim]
  cases hrow : d.clausesInRow q with
  | error e => rfl
  | ok row => exact congrArg Except.ok (beginsSolid_clausesInRow hrow).trim_eq

theorem renderSelect_eq_ok_iff {s : String} :
    d.renderSelect q = .ok s ↔ ∃ row, d.clausesInRow q = .ok row ∧ s = Text.trimEnd row := by
  rw [renderSelect_eq_trimEnd, map_eq_ok]
  simp only [eq_comm]

theorem endsSolid_renderSelect {s : String} (h : d.renderSelect q = .ok s) : Text.EndsSolid s := by
  obtain ⟨row, hrow, rfl⟩ := renderSelect_eq_ok_iff.mp h
  exact (beginsSolid_clausesInRow hrow).endsSolid_trimEnd

/-! ## Members -/

/-- The texts of the members of a union, one for each. -/
def MemberSqls (d : Dialect) (members : List UnionMember) (sqls : List String) : Prop :=
  List.Forall₂ (fun u sql => d.renderSelect u.query = .ok sql) members sqls

/-- A union has texts exactly if each of its members has one, and they are these after the keywords. -/
theorem memberTexts_eq_ok_iff {members : List UnionMember} {texts : List String} :
    d.memberTexts members = .ok texts ↔
      ∃ sqls, d.MemberSqls members sqls ∧
        texts = List.zipWith (fun u sql => memberLine u.all sql) members sqls := by
  induction members generalizing texts with
  | nil =>
    constructor
    · intro h
      obtain rfl : [] = texts := Except.ok.inj h
      exact ⟨[], .nil, rfl⟩
    · rintro ⟨sqls, hsqls, rfl⟩
      cases hsqls
      rfl
  | cons u members ih =>
    obtain ⟨all, query⟩ := u
    rw [memberTexts]
    constructor
    · intro h
      obtain ⟨sql, hsql, h⟩ := bind_eq_ok.mp h
      obtain ⟨rest, hrest, h⟩ := bind_eq_ok.mp h
      obtain rfl : memberLine all sql :: rest = texts := Except.ok.inj h
      obtain ⟨sqls, hsqls, rfl⟩ := ih.mp hrest
      exact ⟨sql :: sqls, .cons hsql hsqls, rfl⟩
    · rintro ⟨sqls, hsqls, rfl⟩
      cases hsqls with
      | cons hsql hrest =>
        have htexts := ih.mpr ⟨_, hrest, rfl⟩
        exact bind_eq_ok.mpr ⟨_, hsql, bind_eq_ok.mpr ⟨_, htexts, rfl⟩⟩

/-- A member ends like its statement. -/
theorem endsSolid_memberTexts {members : List UnionMember} {texts : List String}
    (h : d.memberTexts members = .ok texts) : ∀ text ∈ texts, Text.EndsSolid text := by
  obtain ⟨sqls, hsqls, rfl⟩ := memberTexts_eq_ok_iff.mp h
  clear h
  induction hsqls with
  | nil => nofun
  | cons hsql _ ih => exact List.forall_mem_cons.mpr ⟨(endsSolid_renderSelect hsql).prepend _, ih⟩

/-- The tail of a union behind its members, each part with a blank before it. -/
def tailText (orders : String) (tail : Tail) : String :=
  Text.spaced orders ++ Text.spaced (renderLimit tail.limit) ++ Text.spaced (renderOffset tail.offset)

end Dialect

/-- The members of a union, each after its keyword and with a blank before it. -/
def membersText (members : List UnionMember) (sqls : List String) : String :=
  String.join (List.zipWith (fun u sql => " " ++ memberLine u.all sql) members sqls)

namespace Dialect

variable {d : Dialect} {q : Statement}

/-- The lines of a union and the parts of its tail. -/
def unionParts (members : List UnionMember) (sqls : List String) (orders : String) (tail : Tail) :
    List String :=
  List.zipWith (fun u sql => memberLine u.all sql) members sqls ++
    [orders, renderLimit tail.limit, renderOffset tail.offset]

/-- The clause of a union: its members and the parts of its tail in a row. -/
theorem renderClause_unions_eq_ok_iff (hq : q.unions ≠ []) {unions : String} :
    d.renderClause q .unions = .ok unions ↔
      ∃ sqls orders, d.MemberSqls q.unions sqls ∧ d.renderOrders q.unionTail.orders = .ok orders ∧
        unions = Text.joinParts (unionParts q.unions sqls orders q.unionTail) := by
  have hsome : ∀ texts, d.memberTexts q.unions = .ok texts → ¬ texts.isEmpty = true := by
    intro texts htexts hempty
    rw [memberTexts_isEmpty htexts] at hempty
    exact hq (List.isEmpty_iff.mp hempty)
  rw [renderClause, bind_eq_ok]
  constructor
  · rintro ⟨texts, htexts, h⟩
    rw [renderUnions, if_neg (hsome texts htexts)] at h
    obtain ⟨orders, horders, h⟩ := bind_eq_ok.mp h
    obtain ⟨sqls, hsqls, rfl⟩ := memberTexts_eq_ok_iff.mp htexts
    exact ⟨sqls, orders, hsqls, horders, (Except.ok.inj h).symm⟩
  · rintro ⟨sqls, orders, hsqls, horders, rfl⟩
    have htexts := memberTexts_eq_ok_iff.mpr ⟨sqls, hsqls, rfl⟩
    refine ⟨_, htexts, ?_⟩
    rw [renderUnions, if_neg (hsome _ htexts), horders]
    rfl

/-- Each line of a union brings its blank. -/
theorem spaced_unionParts {members : List UnionMember} {sqls : List String}
    (h : d.MemberSqls members sqls) (orders : String) (tail : Tail) :
    Text.spaced (Text.joinParts (unionParts members sqls orders tail)) =
      membersText members sqls ++ tailText orders tail := by
  have hlines : String.join ((List.zipWith (fun u sql => memberLine u.all sql) members sqls).map
      Text.spaced) = membersText members sqls := by
    induction h with
    | nil => rfl
    | @cons u sql members sqls hsql _ ih =>
      have hline : memberLine u.all sql ≠ "" := ((endsSolid_renderSelect hsql).prepend _).ne_empty
      rw [List.zipWith_cons_cons, List.map_cons, String.join_cons, ih, Text.spaced_of_ne hline,
        membersText, membersText, List.zipWith_cons_cons, String.join_cons]
  rw [Text.spaced_joinParts, unionParts, List.map_append, String.join_append, hlines]
  simp [tailText, String.append_assoc]

/-- Behind anything else, a union ends with a character that is no blank. -/
theorem endsSolid_unionParts {members : List UnionMember} (hne : members ≠ []) {sqls : List String}
    (h : d.MemberSqls members sqls) {orders : String} (horders : orders = "" ∨ Text.EndsSolid orders)
    (tail : Tail) (own : String) :
    Text.EndsSolid (own ++ (membersText members sqls ++ tailText orders tail)) := by
  have hlines : ∀ line ∈ List.zipWith (fun u sql => memberLine u.all sql) members sqls,
      Text.EndsSolid line :=
    endsSolid_memberTexts (memberTexts_eq_ok_iff.mpr ⟨sqls, h, rfl⟩)
  rw [← spaced_unionParts h, Text.spaced_joinParts, unionParts]
  cases h with
  | nil => exact absurd rfl hne
  | cons hsql hrest =>
    rw [List.zipWith_cons_cons] at hlines ⊢
    obtain ⟨hhead, hlines⟩ := List.forall_mem_cons.mp hlines
    rw [List.cons_append, List.map_cons, String.join_cons, ← String.append_assoc]
    refine (hhead.spaced.prepend own).append_join fun part hpart => ?_
    rcases List.mem_append.mp hpart with hpart | hpart
    · exact .inr (hlines part hpart)
    · simp only [List.mem_cons, List.not_mem_nil, or_false] at hpart
      rcases hpart with rfl | rfl | rfl
      · exact horders
      · exact endsSolid_renderCount "LIMIT" tail.limit
      · exact endsSolid_renderCount "OFFSET" tail.offset

/-- **The text of a statement with a union.** -/
theorem renderSelect_of_union (hq : q.unions ≠ []) {s : String} :
    d.renderSelect q = .ok s ↔
      ∃ own blanks sqls orders, d.renderSelect q.alone = .ok own ∧
        d.clausesInRow q.alone = .ok (own ++ blanks) ∧ Text.allBlank blanks = true ∧
        d.MemberSqls q.unions sqls ∧ d.renderOrders q.unionTail.orders = .ok orders ∧
        s = own ++ blanks ++ membersText q.unions sqls ++ tailText orders q.unionTail ++
          Text.trimEnd (Text.spaced (d.lockText q.lock)) := by
  -- blanks at the end are those of the lock
  have hcut : ∀ own {sqls orders}, d.MemberSqls q.unions sqls →
      d.renderOrders q.unionTail.orders = .ok orders →
      Text.trimEnd (own ++ Text.spaced (Text.joinParts (unionParts q.unions sqls orders q.unionTail)) ++
        Text.spaced (d.lockText q.lock)) =
      own ++ (membersText q.unions sqls ++ tailText orders q.unionTail) ++
        Text.trimEnd (Text.spaced (d.lockText q.lock)) := by
    intro own sqls orders hsqls horders
    have hends := endsSolid_unionParts hq hsqls (endsSolid_renderOrders horders) q.unionTail own
    rw [spaced_unionParts hsqls, Text.trimEnd_append hends]
  rw [renderSelect_eq_ok_iff]
  constructor
  · rintro ⟨row, hrow, rfl⟩
    obtain ⟨own, unions, hown, hunions, rfl⟩ := clausesInRow_of_union.mp hrow
    obtain ⟨sqls, orders, hsqls, horders, rfl⟩ := (renderClause_unions_eq_ok_iff hq).mp hunions
    obtain ⟨blanks, hsplit, hblanks⟩ := Text.exists_blanks own
    refine ⟨Text.trimEnd own, blanks, sqls, orders, renderSelect_eq_ok_iff.mpr ⟨own, hown, rfl⟩,
      hsplit ▸ hown, hblanks, hsqls, horders, ?_⟩
    rw [← hsplit, hcut own hsqls horders]
    simp only [String.append_assoc]
  · rintro ⟨own, blanks, sqls, orders, _, hrow, _, hsqls, horders, rfl⟩
    have hunions := (renderClause_unions_eq_ok_iff hq).mpr ⟨sqls, orders, hsqls, horders, rfl⟩
    refine ⟨_, clausesInRow_of_union.mpr ⟨_, _, hrow, hunions, rfl⟩, ?_⟩
    rw [hcut (own ++ blanks) hsqls horders]
    simp only [String.append_assoc]

end Dialect

end FluentSql
