import FluentSql.Proofs.Subtexts

/-!
# `Paged` — LIMIT and OFFSET at every level of a text

A text has levels: that of a statement's own clauses, that of its union, and those of the statements that
it embeds. At each level a limit is written if it is set and positive, and so is an offset, each on its
own. Nothing stands between them. So an OFFSET has a LIMIT directly before it exactly where a positive
limit comes with the positive offset; an engine that reads OFFSET as a part of LIMIT does not read the
other texts.

## Contents
- `Level`, with its text, and `Level.LimitBeforeOffset`.
- `Dialect.ownLevel` and `Dialect.unionLevel`, the two levels of a statement.
- `Level.PagedBy` and `Level.pagedBy_ofClauses`, what is written for a tail.
- `Dialect.pagedBy_of_reachable`, all levels of a text.
-/

namespace FluentSql

/-! ## Levels -/

/-- The clauses of a level that have a text, each with it, in their order. -/
abbrev Level : Type :=
  List (SelectClause × String)

namespace Level

/-- The clauses without those that have no text. -/
def ofClauses (clauses : List (SelectClause × String)) : Level :=
  clauses.filter fun clause => clause.2 ≠ ""

/-- The text of the level, before blanks are cut off. -/
def text (level : Level) : String :=
  Text.joinParts (level.map Prod.snd)

/-- The clause is written at the level. -/
def Writes (level : Level) (clause : SelectClause) : Prop :=
  ∃ text, (clause, text) ∈ level

/-- Directly before an OFFSET clause stands a LIMIT clause, wherever there is one. -/
def LimitBeforeOffset (level : Level) : Prop :=
  ∀ front text behind, level = front ++ (.offset, text) :: behind →
    ∃ limit, front.getLast? = some (.limit, limit)

theorem text_ofClauses (clauses : List (SelectClause × String)) :
    (ofClauses clauses).text = Text.joinParts (clauses.map Prod.snd) := by
  have hkept : (ofClauses clauses).map Prod.snd = (clauses.map Prod.snd).filter (· ≠ "") := by
    rw [ofClauses, List.filter_map]
    rfl
  rw [text, hkept, Text.joinParts, Text.joinParts, List.filter_filter]
  simp only [Bool.and_self]

end Level

namespace Dialect

/-- The level of a statement's own clauses. The union is one of them. -/
def ownLevel (d : Dialect) (q : Statement) : Except Error Level :=
  (SelectClause.all.mapM (d.renderClause q)).map fun texts =>
    Level.ofClauses (SelectClause.all.zip texts)

/-- The level of the union of a statement: its members and its tail. -/
def unionLevel (d : Dialect) (q : Statement) : Except Error Level := do
  let lines ← d.memberTexts q.unions
  let orders ← d.renderOrders q.unionTail.orders
  return Level.ofClauses (lines.map (.unions, ·) ++
    [(.orders, orders), (.limit, renderLimit q.unionTail.limit),
      (.offset, renderOffset q.unionTail.offset)])

end Dialect

/-! ## What is written for a tail -/

/-- The number is set and positive. -/
def Positive (count : Option Int64) : Prop :=
  ∃ n, count = some n ∧ 0 < n

theorem Dialect.renderCount_ne_empty_iff (keyword : String) (count : Option Int64) :
    renderCount keyword count ≠ "" ↔ Positive count := by
  unfold Positive
  cases count with
  | none => simp [renderCount]
  | some n =>
    rw [renderCount]
    split
    · next hn => exact iff_of_true (by simp) ⟨n, rfl, hn⟩
    · next hn =>
      refine iff_of_false (fun hne => hne rfl) ?_
      rintro ⟨n', heq, hpos⟩
      cases heq
      exact hn hpos

namespace Level

/-- The level has the limit and the offset of a tail, each if it is positive. Every OFFSET has a LIMIT
    directly before it exactly if a positive limit comes with a positive offset. -/
structure PagedBy (level : Level) (tail : Tail) : Prop where
  limit : level.Writes .limit ↔ Positive tail.limit
  offset : level.Writes .offset ↔ Positive tail.offset
  adjacent : level.LimitBeforeOffset ↔ (Positive tail.offset → Positive tail.limit)

/-- Where only one clause is an OFFSET, there is one way to part the level at it. -/
theorem front_eq {front front' behind behind' : Level} {clause clause' : SelectClause × String}
    (hfront : ∀ c ∈ front, c.1 ≠ .offset) (hbehind : ∀ c ∈ behind, c.1 ≠ .offset)
    (hclause : clause'.1 = .offset)
    (h : front ++ clause :: behind = front' ++ clause' :: behind') : front' = front := by
  rcases List.append_eq_append_iff.mp h with ⟨middle, hsplit, hrest⟩ | ⟨middle, hsplit, hrest⟩
  · cases middle with
    | nil => rw [hsplit, List.append_nil]
    | cons c middle =>
      -- otherwise the second clause is behind the first one
      obtain ⟨_, hrest⟩ := List.cons.inj hrest
      exact absurd hclause (hbehind clause' (by simp [hrest]))
  · cases middle with
    | nil => rw [hsplit, List.append_nil]
    | cons c middle =>
      obtain ⟨rfl, _⟩ := List.cons.inj hrest
      exact absurd hclause (hfront clause' (by simp [hsplit]))

/-- A clause that is given once is written exactly if it has a text. -/
theorem writes_ofClauses {clauses : List (SelectClause × String)} {clause : SelectClause} {text : String}
    (hmem : (clause, text) ∈ clauses) (honly : ∀ text', (clause, text') ∈ clauses → text' = text) :
    (ofClauses clauses).Writes clause ↔ text ≠ "" := by
  constructor
  · rintro ⟨text', htext'⟩
    obtain ⟨hmem', hne⟩ := List.mem_filter.mp htext'
    rw [← honly text' hmem']
    exact of_decide_eq_true hne
  · intro hne
    exact ⟨text, List.mem_filter.mpr ⟨hmem, decide_eq_true hne⟩⟩

/-- The two clauses of a tail that count rows. -/
def countClauses (tail : Tail) : List (SelectClause × String) :=
  [(.limit, Dialect.renderLimit tail.limit), (.offset, Dialect.renderOffset tail.offset)]

/-- None of the clauses counts rows. -/
def CountFree (clauses : List (SelectClause × String)) : Prop :=
  ∀ c ∈ clauses, c.1 ≠ .limit ∧ c.1 ≠ .offset

variable {front behind : List (SelectClause × String)} (tail : Tail)

theorem mem_countClauses_iff (hfront : CountFree front) (hbehind : CountFree behind)
    {c : SelectClause × String} (hc : c.1 = .limit ∨ c.1 = .offset) :
    c ∈ front ++ countClauses tail ++ behind ↔ c ∈ countClauses tail := by
  have hother : ∀ {clauses}, CountFree clauses → c ∉ clauses := by
    intro clauses hclauses hmem
    obtain ⟨hlimit, hoffset⟩ := hclauses c hmem
    exact hc.elim hlimit hoffset
  rw [List.mem_append, List.mem_append, or_iff_left (hother hbehind), or_iff_right (hother hfront)]

theorem writes_limit (hfront : CountFree front) (hbehind : CountFree behind) :
    (ofClauses (front ++ countClauses tail ++ behind)).Writes .limit ↔ Positive tail.limit := by
  rw [← Dialect.renderCount_ne_empty_iff "LIMIT"]
  apply writes_ofClauses
  · rw [mem_countClauses_iff tail hfront hbehind (.inl rfl)]
    exact List.mem_cons_self
  · intro text' hmem
    rw [mem_countClauses_iff tail hfront hbehind (.inl rfl)] at hmem
    simpa [countClauses, Dialect.renderLimit] using hmem

theorem writes_offset (hfront : CountFree front) (hbehind : CountFree behind) :
    (ofClauses (front ++ countClauses tail ++ behind)).Writes .offset ↔ Positive tail.offset := by
  rw [← Dialect.renderCount_ne_empty_iff "OFFSET"]
  apply writes_ofClauses
  · rw [mem_countClauses_iff tail hfront hbehind (.inr rfl)]
    exact List.mem_cons_of_mem _ List.mem_cons_self
  · intro text' hmem
    rw [mem_countClauses_iff tail hfront hbehind (.inr rfl)] at hmem
    simpa [countClauses, Dialect.renderOffset] using hmem

theorem CountFree.ofClauses (h : CountFree front) : CountFree (ofClauses front) :=
  fun c hc => h c (List.mem_of_mem_filter hc)

/-- A limit and then an offset. -/
theorem limitBeforeOffset_of_both (hfront : CountFree front) (hbehind : CountFree behind)
    (limit offset : String) :
    LimitBeforeOffset (front ++ (.limit, limit) :: (.offset, offset) :: behind) := by
  intro front' text behind' h
  have hbefore : ∀ c ∈ front ++ [(.limit, limit)], c.1 ≠ .offset := by
    intro c hc
    rcases List.mem_append.mp hc with hc | hc
    · exact (hfront c hc).2
    · rw [List.mem_singleton.mp hc]
      exact SelectClause.noConfusion
  rw [List.append_cons] at h
  rw [front_eq hbefore (fun c hc => (hbehind c hc).2) rfl h]
  exact ⟨limit, List.getLast?_concat⟩

/-- An offset without a limit. -/
theorem not_limitBeforeOffset (hfront : CountFree front) (offset : String) :
    ¬ LimitBeforeOffset (front ++ (.offset, offset) :: behind) := by
  intro hbefore
  obtain ⟨limit, hlast⟩ := hbefore front offset behind rfl
  exact (hfront _ (List.mem_of_getLast? hlast)).1 rfl

/-- **Where the offset stands.** Its clause comes directly behind that of the limit, if there is one, and
    else behind clauses that are no limit. -/
theorem limitBeforeOffset_iff (hfront : CountFree front) (hbehind : CountFree behind) :
    (ofClauses (front ++ countClauses tail ++ behind)).LimitBeforeOffset ↔
      (Positive tail.offset → Positive tail.limit) := by
  have hlevel : ofClauses (front ++ countClauses tail ++ behind) =
      ofClauses front ++ (ofClauses (countClauses tail) ++ ofClauses behind) := by
    rw [ofClauses, List.filter_append, List.filter_append, List.append_assoc]
    rfl
  have hlimit := Dialect.renderCount_ne_empty_iff "LIMIT" tail.limit
  have hoffset := Dialect.renderCount_ne_empty_iff "OFFSET" tail.offset
  by_cases hskips : Positive tail.offset
  · have hoffsetText := hoffset.mpr hskips
    by_cases htakes : Positive tail.limit
    · have hcounts : ofClauses (countClauses tail) = countClauses tail := by
        simp [ofClauses, countClauses, Dialect.renderLimit, Dialect.renderOffset, hlimit.mpr htakes,
          hoffsetText]
      rw [hlevel, hcounts]
      exact iff_of_true (limitBeforeOffset_of_both hfront.ofClauses hbehind.ofClauses _ _)
        fun _ => htakes
    · have hlimitText := not_not.mp (mt hlimit.mp htakes)
      have hcounts : ofClauses (countClauses tail) = [(.offset, Dialect.renderOffset tail.offset)] := by
        simp [ofClauses, countClauses, Dialect.renderLimit, Dialect.renderOffset, hlimitText,
          hoffsetText]
      rw [hlevel, hcounts]
      exact iff_of_false (not_limitBeforeOffset hfront.ofClauses _) fun himp => htakes (himp hskips)
  · -- no OFFSET is written
    refine iff_of_true ?_ fun hskips' => absurd hskips' hskips
    intro front' text behind' h
    have hwrites : (ofClauses (front ++ countClauses tail ++ behind)).Writes .offset :=
      ⟨text, by rw [h]; simp⟩
    exact absurd ((writes_offset tail hfront hbehind).mp hwrites) hskips

/-- **One level.** A limit and then an offset stand among clauses that do not count rows. -/
theorem pagedBy_ofClauses (hfront : CountFree front) (hbehind : CountFree behind) :
    (ofClauses (front ++ countClauses tail ++ behind)).PagedBy tail :=
  ⟨writes_limit tail hfront hbehind, writes_offset tail hfront hbehind,
    limitBeforeOffset_iff tail hfront hbehind⟩

end Level

/-! ## The levels of a statement -/

namespace Dialect

variable {d : Dialect} {q : Statement}

/-- The clauses before the limit. -/
def unpaged : List SelectClause :=
  [.aggregate, .columns, .table, .joins, .wheres, .groups, .havings, .orders]

theorem countFree_zip {clauses : List SelectClause} (h : ∀ c ∈ clauses, c ≠ .limit ∧ c ≠ .offset)
    (texts : List String) : Level.CountFree (clauses.zip texts) :=
  fun c hc => h c.1 (List.of_mem_zip hc).1

theorem length_of_clauses {f : SelectClause → Except Error String} {clauses : List SelectClause}
    {texts : List String} (h : clauses.mapM f = .ok texts) : texts.length = clauses.length := by
  have hmapM : (clauses.map f).mapM id = .ok texts := by
    rw [List.mapM_map]
    exact h
  rw [length_of_mapM hmapM, List.length_map]

/-- Clauses and then others, each with its text. -/
theorem zip_append_of_mapM {f : SelectClause → Except Error String} {front behind : List SelectClause}
    {texts : List String} (h : (front ++ behind).mapM f = .ok texts) :
    ∃ frontTexts behindTexts, front.mapM f = .ok frontTexts ∧ behind.mapM f = .ok behindTexts ∧
      (front ++ behind).zip texts = front.zip frontTexts ++ behind.zip behindTexts := by
  rw [List.mapM_append] at h
  obtain ⟨frontTexts, hfront, h⟩ := bind_eq_ok.mp h
  obtain ⟨behindTexts, hbehind, h⟩ := bind_eq_ok.mp h
  obtain rfl : frontTexts ++ behindTexts = texts := Except.ok.inj h
  exact ⟨frontTexts, behindTexts, hfront, hbehind, List.zip_append (length_of_clauses hfront).symm⟩

/-- The clauses of a statement with their texts: limit and offset stand among others. -/
theorem exists_zip_all {texts : List String}
    (h : SelectClause.all.mapM (d.renderClause q) = .ok texts) :
    ∃ front behind, Level.CountFree front ∧ Level.CountFree behind ∧
      SelectClause.all.zip texts = front ++ Level.countClauses q.tail ++ behind := by
  have hall : SelectClause.all = (unpaged ++ [.limit, .offset]) ++ [.unions, .lock] := rfl
  rw [hall] at h ⊢
  obtain ⟨texts', behind, htexts', _, hzip⟩ := zip_append_of_mapM h
  obtain ⟨front, counts, _, hcounts, hzip'⟩ := zip_append_of_mapM htexts'
  obtain rfl : [renderLimit q.tail.limit, renderOffset q.tail.offset] = counts :=
    Except.ok.inj hcounts
  refine ⟨unpaged.zip front, [.unions, .lock].zip behind, countFree_zip (by decide) front,
    countFree_zip (by decide) behind, ?_⟩
  rw [hzip, hzip']
  rfl

/-- **The own level.** Its text is that of the statement, and it is paged by the statement's own tail. -/
theorem ownLevel_of_renderSelect {sql : String} (h : d.renderSelect q = .ok sql) :
    ∃ level, d.ownLevel q = .ok level ∧ sql = Text.trimEnd level.text ∧ level.PagedBy q.tail := by
  obtain ⟨row, hrow, rfl⟩ := renderSelect_eq_ok_iff.mp h
  obtain ⟨texts, htexts, rfl⟩ := map_eq_ok.mp hrow
  obtain ⟨front, behind, hfront, hbehind, hzip⟩ := exists_zip_all htexts
  refine ⟨_, map_eq_ok.mpr ⟨texts, htexts, rfl⟩, ?_, ?_⟩
  · rw [Level.text_ofClauses, List.map_snd_zip (length_of_clauses htexts).le]
  · rw [hzip]
    exact Level.pagedBy_ofClauses q.tail hfront hbehind

/-- What is not empty is written. -/
theorem mem_ownLevel {level : Level} (hlevel : d.ownLevel q = .ok level) {clause : SelectClause}
    {text : String} (htext : d.renderClause q clause = .ok text) (hne : text ≠ "") :
    (clause, text) ∈ level := by
  obtain ⟨texts, htexts, rfl⟩ := map_eq_ok.mp hlevel
  obtain ⟨text', htext', hmem⟩ := exists_of_mapM htexts clause.mem_all
  obtain rfl := Except.ok.inj (htext.symm.trans htext')
  exact List.mem_filter.mpr ⟨hmem, decide_eq_true hne⟩

/-- The tail of a union stands behind its members. -/
theorem pagedBy_unionClauses (lines : List String) (orders : String) (tail : Tail) :
    (Level.ofClauses (lines.map (.unions, ·) ++
      [(.orders, orders), (.limit, renderLimit tail.limit), (.offset, renderOffset tail.offset)])).PagedBy
        tail := by
  have hsplit : lines.map (SelectClause.unions, ·) ++
      [(.orders, orders), (.limit, renderLimit tail.limit), (.offset, renderOffset tail.offset)] =
      lines.map (SelectClause.unions, ·) ++ [(.orders, orders)] ++ Level.countClauses tail ++ [] := by
    simp [Level.countClauses]
  rw [hsplit]
  refine Level.pagedBy_ofClauses tail (fun c hc => ?_) nofun
  rcases List.mem_append.mp hc with hc | hc
  · obtain ⟨line, _, rfl⟩ := List.mem_map.mp hc
    exact ⟨SelectClause.noConfusion, SelectClause.noConfusion⟩
  · rw [List.mem_singleton.mp hc]
    exact ⟨SelectClause.noConfusion, SelectClause.noConfusion⟩

/-- **The level of the union.** Its text is a clause of the statement, and it is paged by the tail of the
    union. -/
theorem unionLevel_of_renderClause (hq : q.unions ≠ []) {text : String}
    (h : d.renderClause q .unions = .ok text) :
    ∃ level, d.unionLevel q = .ok level ∧ text = level.text ∧ text ≠ "" ∧
      level.PagedBy q.unionTail := by
  obtain ⟨sqls, orders, hsqls, horders, rfl⟩ := (renderClause_unions_eq_ok_iff hq).mp h
  have hlines := memberTexts_eq_ok_iff.mpr ⟨sqls, hsqls, rfl⟩
  refine ⟨_, by rw [unionLevel, hlines, horders]; rfl, ?_, ?_, ?_⟩
  · rw [Level.text_ofClauses, List.map_append, List.map_map]
    simp [unionParts, Function.comp_def]
  · -- behind anything else, it does not end with a blank
    have hends := endsSolid_unionParts hq hsqls (endsSolid_renderOrders horders) q.unionTail ""
    rw [String.empty_append, ← spaced_unionParts hsqls] at hends
    intro hnil
    rw [hnil] at hends
    exact hends.ne_empty rfl
  · exact pagedBy_unionClauses _ orders q.unionTail

/-! ## All levels of a text -/

/-- **Limits and offsets at every level.** In the text of a statement stands the text of each statement
    that it embeds, at any depth. At its own level and at that of its union, the limit is written if it is
    positive, the offset is written if it is positive, and each OFFSET has a LIMIT directly before it
    exactly if a positive limit comes with a positive offset. -/
theorem pagedBy_of_reachable {sql : String} (h : d.renderSelect q = .ok sql) {e : Statement}
    (hpath : Relation.ReflTransGen Statement.Selects q e) :
    ∃ own inner, d.renderSelect e = .ok inner ∧ Text.Within inner sql ∧ d.ownLevel e = .ok own ∧
      inner = Text.trimEnd own.text ∧ own.PagedBy e.tail ∧
      (e.unions ≠ [] → ∃ union, d.unionLevel e = .ok union ∧ (.unions, union.text) ∈ own ∧
        union.PagedBy e.unionTail) := by
  obtain ⟨inner, hinner, hwithin⟩ := within_of_reachable hpath h
  obtain ⟨own, hown, htext, hpaged⟩ := ownLevel_of_renderSelect hinner
  refine ⟨own, inner, hinner, hwithin, hown, htext, hpaged, fun hunions => ?_⟩
  obtain ⟨row, hrow, _⟩ := renderSelect_eq_ok_iff.mp hinner
  obtain ⟨_, hclause, _⟩ := exists_clause_text hrow .unions
  obtain ⟨union, hunion, rfl, hne, hpagedUnion⟩ := unionLevel_of_renderClause hunions hclause
  exact ⟨union, hunion, mem_ownLevel hown hclause hne, hpagedUnion⟩

end Dialect

/-! ## Goods behind the fifth one, and two pages in one text -/

/-- The goods behind the fifth one. -/
def skippedGoods : Chain :=
  ((Chain.fresh { dialect := { family := .sqlite } }).plain (.table (.named "goods"))).plain (.offset 5)

/-- The OFFSET stands alone. -/
theorem skippedGoods_text :
    ∃ q own, skippedGoods.build = .ok q ∧ q.setting.dialect.family = .sqlite ∧
      q.selectSql = .ok "SELECT * FROM \x60goods\x60 OFFSET 5" ∧
      q.setting.dialect.ownLevel q = .ok own ∧ (.offset, "OFFSET 5") ∈ own ∧
      ¬ own.LimitBeforeOffset := by
  refine ⟨_, [(.columns, "SELECT *"), (.table, "FROM \x60goods\x60"), (.offset, "OFFSET 5")], rfl, rfl, ?_,
    ?_, ?_, ?_⟩
  · decide +kernel
  · decide +kernel
  · decide
  · intro hbefore
    obtain ⟨limit, hlast⟩ :=
      hbefore [(.columns, "SELECT *"), (.table, "FROM \x60goods\x60")] "OFFSET 5" [] rfl
    cases hlast

/-- The second three ids of goods. -/
def secondIds : Statement :=
  { Statement.fresh {} with
    columns := [.named "id"]
    table := some (.named "goods")
    tail := { limit := some 3, offset := some 3 } }

/-- Prices of the second three goods, together with old ones: the third page of all of them. -/
def pagedPrices : Statement :=
  { Statement.fresh {} with
    table := some (.named "prices")
    wheres := [⟨.and, .memberOf (.named "id") secondIds false⟩]
    unions := [⟨true, (Statement.fresh {}).withTable (.named "old")⟩]
    unionTail := { limit := some 10, offset := some 20 } }

/-- The pages of the subquery and of the union are both in order. -/
theorem pagedBy_pagedPrices :
    Dialect.renderSelect {} pagedPrices =
        .ok ("SELECT * FROM \x60prices\x60 WHERE \x60id\x60 IN (SELECT \x60id\x60 FROM \x60goods\x60 "
          ++ "LIMIT 3 OFFSET 3) UNION ALL SELECT * FROM \x60old\x60 LIMIT 10 OFFSET 20") ∧
      Relation.ReflTransGen Statement.Selects pagedPrices secondIds ∧
      (∃ own, Dialect.ownLevel {} secondIds = .ok own ∧ own.Writes .offset ∧ own.LimitBeforeOffset) ∧
      ∃ union, Dialect.unionLevel {} pagedPrices = .ok union ∧ union.Writes .offset ∧
        union.LimitBeforeOffset := by
  have htext : Dialect.renderSelect {} pagedPrices =
      .ok ("SELECT * FROM \x60prices\x60 WHERE \x60id\x60 IN (SELECT \x60id\x60 FROM \x60goods\x60 "
        ++ "LIMIT 3 OFFSET 3) UNION ALL SELECT * FROM \x60old\x60 LIMIT 10 OFFSET 20") := by
    decide +kernel
  have hpath : Relation.ReflTransGen Statement.Selects pagedPrices secondIds :=
    .single (.inl ⟨_, List.mem_cons_self, .memberOf⟩)
  refine ⟨htext, hpath, ?_, ?_⟩
  · obtain ⟨own, _, _, _, hown, _, hpaged, _⟩ := Dialect.pagedBy_of_reachable htext hpath
    exact ⟨own, hown, hpaged.offset.mpr ⟨3, rfl, by decide⟩,
      hpaged.adjacent.mpr fun _ => ⟨3, rfl, by decide⟩⟩
  · obtain ⟨_, _, _, _, _, _, _, hunion⟩ := Dialect.pagedBy_of_reachable htext .refl
    obtain ⟨union, hlevel, _, hpaged⟩ := hunion (List.cons_ne_nil _ _)
    exact ⟨union, hlevel, hpaged.offset.mpr ⟨20, rfl, by decide⟩,
      hpaged.adjacent.mpr fun _ => ⟨10, rfl, by decide⟩⟩

end FluentSql
