import FluentSql.Proofs.Alignment.Select
import FluentSql.Statement.Writing

/-!
# `Alignment.Writing` — the values of an UPDATE and of a DELETE stand where they were given

An UPDATE shows joins and conditions of the statement and puts the values of a record between them; a
DELETE shows the conditions alone. What the statement binds elsewhere is not sent.

## Contents
- `Dialect.UpdateReads` and `Dialect.DeleteReads`, the two texts clause by clause.
- `Record.Unmarked` and `Record.inline`, the record with literals for its values; `Literals.written`, a
  value as the texts with literals have it.
- `Twin.fill_updateBuilt` and `Twin.fill_deleteBuilt`.
- `Chain.fill_writing`, for every chain of calls whose conditions keep their projections.
-/

namespace FluentSql

/-! ## The texts -/

namespace Dialect

variable {d : Dialect} {q : Statement} {record : Record} {text : String}

/-- An UPDATE: the table, the joins if there are any, the assignments and the conditions. -/
def UpdateReads (d : Dialect) (q : Statement) (assignments : List String) (text : String) : Prop :=
  ∃ table wheres, q.table = some table ∧ d.renderWheres q = .ok wheres ∧
    text = Text.trim ("UPDATE " ++ d.quoteTable table ++
      (if d.renderJoins q.joins = "" then "" else " " ++ d.renderJoins q.joins) ++
      " SET " ++ ", ".intercalate assignments ++ " " ++ wheres)

/-- A DELETE: the table and the conditions. -/
def DeleteReads (d : Dialect) (q : Statement) (text : String) : Prop :=
  ∃ table wheres, q.table = some table ∧ d.renderWheres q = .ok wheres ∧
    text = Text.trim ("DELETE FROM " ++ d.quoteTable table ++ " " ++ wheres)

theorem tableFor_eq_ok {statement : String} :
    d.tableFor q statement = .ok text ↔ ∃ table, q.table = some table ∧ d.quoteTable table = text := by
  unfold tableFor
  cases q.table <;> simp

/-- A text with the table and the conditions in it. -/
theorem withTableAndWheres_eq_ok {statement : String} {f : String → String → String} :
    (d.tableFor q statement >>= fun table =>
      d.renderWheres q >>= fun wheres => .ok (f table wheres)) = .ok text ↔
      ∃ table wheres, q.table = some table ∧ d.renderWheres q = .ok wheres ∧
        text = f (d.quoteTable table) wheres := by
  constructor
  · intro h
    obtain ⟨quoted, hquoted, h⟩ := bind_eq_ok.mp h
    obtain ⟨wheres, hwheres, h⟩ := bind_eq_ok.mp h
    obtain ⟨table, htable, rfl⟩ := tableFor_eq_ok.mp hquoted
    exact ⟨table, wheres, htable, hwheres, (Except.ok.inj h).symm⟩
  · rintro ⟨table, wheres, htable, hwheres, rfl⟩
    have hquoted : d.tableFor q statement = .ok (d.quoteTable table) :=
      tableFor_eq_ok.mpr ⟨table, htable, rfl⟩
    exact bind_eq_ok.mpr ⟨_, hquoted, bind_eq_ok.mpr ⟨wheres, hwheres, rfl⟩⟩

theorem renderUpdate_eq_ok :
    d.renderUpdate q record = .ok text ↔
      d.UpdateReads q (record.entries.map d.renderAssignment) text :=
  withTableAndWheres_eq_ok

theorem renderDelete_eq_ok : d.renderDelete q = .ok text ↔ d.DeleteReads q text :=
  withTableAndWheres_eq_ok

end Dialect

namespace Statement

variable {q : Statement} {record : Record} {built : Built}

/-- An UPDATE needs a column to set; it sends the values of joins, assignments and conditions. -/
theorem updateBuilt_eq_ok :
    q.updateBuilt record = .ok built ↔ ¬record.isEmpty = true ∧
      q.setting.dialect.UpdateReads q (record.entries.map q.setting.dialect.renderAssignment)
        built.sql ∧
      built.bindings = q.bindings.join ++ Value.withoutRaw record.values ++ q.bindings.filter := by
  rw [← Dialect.renderUpdate_eq_ok, updateBuilt]
  by_cases hempty : record.isEmpty = true
  · rw [if_pos hempty]
    exact ⟨nofun, fun h => absurd hempty h.1⟩
  · rw [if_neg hempty, bind_eq_ok]
    constructor
    · rintro ⟨sql, hsql, h⟩
      obtain rfl := Except.ok.inj h
      exact ⟨hempty, hsql, rfl⟩
    · rintro ⟨_, hsql, hbindings⟩
      obtain ⟨sql, bindings⟩ := built
      obtain rfl := hbindings
      exact ⟨sql, hsql, rfl⟩

/-- A DELETE sends the values of its conditions. -/
theorem deleteBuilt_eq_ok :
    q.deleteBuilt = .ok built ↔
      q.setting.dialect.DeleteReads q built.sql ∧ built.bindings = q.bindings.filter := by
  rw [← Dialect.renderDelete_eq_ok, deleteBuilt, bind_eq_ok]
  constructor
  · rintro ⟨sql, hsql, h⟩
    obtain rfl := Except.ok.inj h
    exact ⟨hsql, rfl⟩
  · rintro ⟨hsql, hbindings⟩
    obtain ⟨sql, bindings⟩ := built
    obtain rfl := hbindings
    exact ⟨sql, hsql, rfl⟩

end Statement

/-! ## Records with literals -/

/-- A value as it is written: a raw value is its own text. -/
def Literals.written (lit : Literals) : Value → String
  | .raw sql => sql
  | v => lit.text v

theorem Dialect.placeholder_inline {lit : Literals} (d : Dialect) (v : Value) :
    d.placeholder (v.inline lit) = lit.written v := by
  cases v <;> rfl

namespace Record

/-- Columns and raw values hold no marker. -/
def Unmarked (r : Record) : Prop :=
  ∀ entry ∈ r.entries, Text.Unmarked entry.1 ∧ entry.2.Unmarked

/-- The record with the raw texts of literals as its values. -/
def inline (lit : Literals) (r : Record) : Record where
  entries := r.entries.map fun entry => (entry.1, entry.2.inline lit)
  ascending := by
    rw [KeysAscending, List.pairwise_map]
    exact r.ascending

/-- Nothing is bound for it. -/
theorem withoutRaw_values_inline {lit : Literals} (r : Record) :
    Value.withoutRaw (r.inline lit).values = [] := by
  have hvalues : (r.inline lit).values = r.values.map fun v => v.inline lit := by
    simp [values, inline]
  rw [hvalues, Value.withoutRaw_map_inline]

/-- Its assignments: each column equals the literal of its own value. -/
theorem assignments_inline {lit : Literals} (d : Dialect) (r : Record) :
    (r.inline lit).entries.map d.renderAssignment =
      r.entries.map fun entry => d.quoteColumn (.named entry.1) ++ " = " ++ lit.written entry.2 := by
  rw [inline, List.map_map]
  refine List.map_congr_left fun entry _ => ?_
  rw [Function.comp_apply, Dialect.renderAssignment, Dialect.placeholder_inline]

/-- The assignments of an UPDATE. -/
theorem fills_assignments {lit : Literals} {d : Dialect} (r : Record) (hd : d.QuestionMarked)
    (hr : r.Unmarked) :
    Fills lit (Value.withoutRaw r.values) (", ".intercalate (r.entries.map d.renderAssignment))
      (", ".intercalate (r.entries.map fun entry =>
        d.quoteColumn (.named entry.1) ++ " = " ++ lit.written entry.2)) := by
  refine .intercalate (by decide) ?_
  obtain ⟨entries, ascending⟩ := r
  simp only [Unmarked, values] at hr ⊢
  clear ascending
  induction entries with
  | nil => exact .nil
  | cons entry entries ih =>
    obtain ⟨hcolumn, hvalue⟩ := hr entry List.mem_cons_self
    have hreference : (Reference.named entry.1).Unmarked := hcolumn
    have hplaceholder : Fills lit (Value.withoutRaw [entry.2]) (d.placeholder entry.2)
        (d.placeholder (entry.2.inline lit)) := fills_placeholder hd hvalue
    rw [Dialect.placeholder_inline] at hplaceholder
    rw [List.map_cons, ← List.singleton_append, Value.withoutRaw_append]
    refine .cons ?_ (ih fun e he => hr e (List.mem_cons_of_mem _ he))
    exact hplaceholder.prepend ((hd.quoteColumn hreference).append (by decide))

end Record

namespace Twin

variable {lit : Literals} {part : Part} {q p : Statement} {built : Built}

/-- The conditions of an UPDATE and of a DELETE. -/
theorem renderWheres (h : Twin .exact lit part q p) (hq : q.Clean) {wheres : String}
    (hwheres : q.setting.dialect.renderWheres q = .ok wheres) :
    ∃ wheres', q.setting.dialect.renderWheres p = .ok wheres' ∧
      Fills lit q.bindings.filter wheres wheres' := by
  obtain ⟨wheres', hwheres', us, hus, hfills⟩ :=
    renderCriteria_tracks hq.dialect (by decide) h.wheres wheres hwheres
  obtain rfl : us = q.bindings.filter := hus
  exact ⟨wheres', hwheres', hfills⟩

/-- A clause with a blank before it, unless it is empty. -/
theorem fills_blankBefore {vs : List Value} {s t : String} (h : Fills lit vs s t) :
    Fills lit vs (if s = "" then "" else " " ++ s) (if t = "" then "" else " " ++ t) := by
  by_cases hs : s = ""
  · have ht : t = "" := h.eq_empty_iff.mp hs
    rw [if_pos hs, if_pos ht]
    rwa [hs, ht] at h
  · have ht : t ≠ "" := mt h.eq_empty_iff.mpr hs
    rw [if_neg hs, if_neg ht]
    exact h.prepend (by decide)

/-- The order of the clauses of an UPDATE. -/
theorem fills_update {us vs ws : List Value}
    {table joins joins' assignments assignments' wheres wheres' : String}
    (htable : Text.Unmarked table) (hjoins : Fills lit us joins joins')
    (hassignments : Fills lit vs assignments assignments') (hwheres : Fills lit ws wheres wheres') :
    Fills lit (us ++ vs ++ ws)
      (Text.trim ("UPDATE " ++ table ++ joins ++ " SET " ++ assignments ++ " " ++ wheres))
      (Text.trim ("UPDATE " ++ table ++ joins' ++ " SET " ++ assignments' ++ " " ++ wheres')) := by
  have hhead : Text.Unmarked ("UPDATE " ++ table) := .append (by decide) htable
  have hset : Fills lit us ("UPDATE " ++ table ++ joins ++ " SET ")
      ("UPDATE " ++ table ++ joins' ++ " SET ") := (hjoins.prepend hhead).append_unmarked (by decide)
  exact (((hset.append hassignments).append_unmarked (by decide)).append hwheres).trim

/-- **An UPDATE.** Values of joins come first, those of the record next, those of conditions last. -/
theorem fill_updateBuilt (h : Twin .exact lit part q p) (hq : q.Clean) {record : Record}
    (hrecord : record.Unmarked) (hbuilt : q.updateBuilt record = .ok built) :
    ∃ text, p.updateBuilt (record.inline lit) = .ok ⟨text, []⟩ ∧
      Text.fill (built.bindings.map lit.text) built.sql = some text ∧
      q.setting.dialect.UpdateReads p (record.entries.map fun entry =>
        q.setting.dialect.quoteColumn (.named entry.1) ++ " = " ++ lit.written entry.2) text := by
  obtain ⟨hsome, ⟨table, wheres, htable, hwheres, hsql⟩, hbindings⟩ :=
    Statement.updateBuilt_eq_ok.mp hbuilt
  obtain ⟨wheres', hwheres', hwheresFills⟩ := h.renderWheres hq hwheres
  -- joins, assignments and conditions, as their values are listed
  have hfills := fills_update (hq.dialect.quoteTable (hq.table table htable))
    (fills_blankBefore (fills_renderJoins hq.dialect h.joins))
    (record.fills_assignments hq.dialect hrecord) hwheresFills
  rw [← hsql, ← hbindings] at hfills
  have hreads : q.setting.dialect.UpdateReads p (record.entries.map fun entry =>
      q.setting.dialect.quoteColumn (.named entry.1) ++ " = " ++ lit.written entry.2) _ :=
    ⟨table, wheres', h.table.trans htable, hwheres', rfl⟩
  refine ⟨_, Statement.updateBuilt_eq_ok.mpr ⟨?_, ?_, ?_⟩, Fills.iff_fill_eq.mp hfills, hreads⟩
  · simpa [Record.isEmpty, Record.inline] using hsome
  · rw [h.setting, record.assignments_inline]
    exact hreads
  · rw [h.bindings, record.withoutRaw_values_inline]
    rfl

/-- **A DELETE.** -/
theorem fill_deleteBuilt (h : Twin .exact lit part q p) (hq : q.Clean)
    (hbuilt : q.deleteBuilt = .ok built) :
    ∃ text, p.deleteBuilt = .ok ⟨text, []⟩ ∧
      Text.fill (built.bindings.map lit.text) built.sql = some text ∧
      q.setting.dialect.DeleteReads p text := by
  obtain ⟨⟨table, wheres, htable, hwheres, hsql⟩, hbindings⟩ := Statement.deleteBuilt_eq_ok.mp hbuilt
  obtain ⟨wheres', hwheres', hfills⟩ := h.renderWheres hq hwheres
  have htableText : Text.Unmarked (q.setting.dialect.quoteTable table) :=
    hq.dialect.quoteTable (hq.table table htable)
  have hhead : Text.Unmarked ("DELETE FROM " ++ q.setting.dialect.quoteTable table ++ " ") :=
    .append (.append (by decide) htableText) (by decide)
  have htext := (hfills.prepend hhead).trim
  rw [← hsql, ← hbindings] at htext
  have hreads : q.setting.dialect.DeleteReads p _ :=
    ⟨table, wheres', h.table.trans htable, hwheres', rfl⟩
  refine ⟨_, Statement.deleteBuilt_eq_ok.mpr ⟨?_, ?_⟩, Fills.iff_fill_eq.mp htext, hreads⟩
  · rw [h.setting]
    exact hreads
  · rw [h.bindings]
    rfl

end Twin

/-- **Positional alignment of UPDATE and DELETE.** Whatever the literals, those of the values that are
    sent, written in place of the markers from left to right, use up markers and values together. The
    texts are those of the same calls with the literals among their arguments, and, for the UPDATE, of
    the record with literals for its values; nothing is bound to these. Behind `SET`, each column of the
    record is assigned the literal of its own value, columns in ascending order; joins stand before,
    conditions behind. -/
theorem Chain.fill_writing (lit : Literals) {chain : Chain} (hc : chain.WellMarked)
    (hk : chain.KeepsProjection .conditions) {q : Statement} (h : chain.build = .ok q) :
    ∃ p, chain.inlined lit = .ok p ∧
      (∀ record : Record, record.Unmarked → ∀ built, q.updateBuilt record = .ok built →
        ∃ text, p.updateBuilt (record.inline lit) = .ok ⟨text, []⟩ ∧
          Text.fill (built.bindings.map lit.text) built.sql = some text ∧
          record.entries.Pairwise (fun entry later => entry.1 < later.1) ∧
          q.setting.dialect.UpdateReads p (record.entries.map fun entry =>
            q.setting.dialect.quoteColumn (.named entry.1) ++ " = " ++ lit.written entry.2) text) ∧
      (∀ built, q.deleteBuilt = .ok built →
        ∃ text, p.deleteBuilt = .ok ⟨text, []⟩ ∧
          Text.fill (built.bindings.map lit.text) built.sql = some text ∧
          q.setting.dialect.DeleteReads p text) := by
  obtain ⟨p, hp, htwin⟩ := twin_run_exact lit hc hk h
  have hclean : q.Clean := clean_run hc h
  refine ⟨p, hp, fun record hrecord built hbuilt => ?_, fun built hbuilt => ?_⟩
  · obtain ⟨text, htext, hfill, hreads⟩ := htwin.fill_updateBuilt hclean hrecord hbuilt
    exact ⟨text, htext, hfill, record.ascending, hreads⟩
  · exact htwin.fill_deleteBuilt hclean hbuilt

/-! ## A statement with values in joins, assignments, a subquery and a group -/

/-- Goods in a range of prices, and heavy ones. -/
def cheapOrHeavyGoods : Chain :=
  ((Chain.fresh {}).plain (.between .and false (.named "price") (.int 10) (.raw "20"))).plain
    (.whereRaw .or "weight > ?" [.int 3])

/-- Goods of Norwegian makers that a customer ordered and that are cheap or heavy. -/
def orderedGoods : Chain :=
  let makers : Join := ⟨.named "makers", .inner,
    [⟨.and, .named "makers.id", "=", .column (.named "goods.maker")⟩,
      ⟨.and, .named "makers.land", "=", .value (.text "NO")⟩]⟩
  let goods := ((Chain.fresh {}).plain (.table (.named "goods"))).plain (.addJoin makers)
  let ordered := Chain.call goods (.membership .and false (.named "id") (.query (.fresh {})))
    fun _ => customerOrders
  .call ordered (.condition .and (.group (.fresh {}))) fun _ => cheapOrHeavyGoods

/-- A new price, and a raw value. -/
def newPrice : Record :=
  .ofList [("price", .int 7), ("stamp", .raw "now()")]

theorem cheapOrHeavyGoods_wellMarked : cheapOrHeavyGoods.WellMarked := by
  have hbetween : (Call.between .and false (.named "price") (.int 10) (.raw "20")).WellMarked :=
    ⟨by decide, trivial, show Text.Unmarked _ by decide⟩
  have hraw : (Call.whereRaw .or "weight > ?" [.int 3]).WellMarked := show Balanced _ _ by decide
  exact (Chain.wellMarked_fresh.plain hbetween).plain hraw

theorem orderedGoods_wellMarked : orderedGoods.WellMarked := by
  have htable : (Call.table (.named "goods")).WellMarked := show Reference.Unmarked _ by decide
  refine ⟨⟨(Chain.wellMarked_fresh.plain htable).plain ?_, ⟨by decide, trivial⟩,
    fun _ => customerOrders_wellMarked⟩, trivial, fun _ => cheapOrHeavyGoods_wellMarked⟩
  show Join.Unmarked _
  refine ⟨by decide, fun c hc => ?_⟩
  simp only [List.mem_cons, List.not_mem_nil, or_false] at hc
  rcases hc with rfl | rfl
  · exact ⟨by decide, by decide, show Reference.Unmarked _ by decide⟩
  · exact ⟨by decide, by decide, trivial⟩

theorem orderedGoods_keepsProjection : orderedGoods.KeepsProjection .conditions := by
  have hfresh : (Chain.fresh {}).KeepsProjection .conditions := trivial
  have hgroup : cheapOrHeavyGoods.KeepsProjection .conditions :=
    (hfresh.plain (by nofun)).plain (by nofun)
  exact ⟨⟨(hfresh.plain (by nofun)).plain (by nofun), by nofun,
    fun _ => customerOrders_showsProjection⟩, by nofun, fun _ => hgroup⟩

theorem newPrice_unmarked : newPrice.Unmarked := by
  intro entry hentry
  have hentries : newPrice.entries = [("price", .int 7), ("stamp", .raw "now()")] := by decide
  rw [hentries] at hentry
  simp only [List.mem_cons, List.not_mem_nil, or_false] at hentry
  rcases hentry with rfl | rfl <;> exact ⟨by decide, by decide⟩

/-- The conditions, with texts for a customer, the end of a range and a weight. -/
def orderedGoodsWhere (customer low weight : String) : String :=
  " WHERE \x60id\x60 IN (SELECT * FROM \x60orders\x60 WHERE \x60customer\x60 = " ++ customer ++ ")" ++
    " AND (\x60price\x60 BETWEEN " ++ low ++ " AND 20 OR weight > " ++ weight ++ ")"

/-- The UPDATE, with texts for a land and a price, and those of the conditions. -/
def orderedGoodsUpdate (land price customer low weight : String) : String :=
  "UPDATE \x60goods\x60 INNER JOIN \x60makers\x60" ++
    " ON \x60makers\x60.\x60id\x60 = \x60goods\x60.\x60maker\x60" ++
    " AND \x60makers\x60.\x60land\x60 = " ++ land ++
    " SET \x60price\x60 = " ++ price ++ ", \x60stamp\x60 = now()" ++
    orderedGoodsWhere customer low weight

/-- The DELETE, with texts for those of the conditions. -/
def orderedGoodsDelete (customer low weight : String) : String :=
  "DELETE FROM \x60goods\x60" ++ orderedGoodsWhere customer low weight

/-- Literals take the places of the markers. -/
theorem fills_orderedGoodsWhere (lit : Literals) (customer low weight : Value) :
    Fills lit [customer, low, weight] (orderedGoodsWhere "?" "?" "?")
      (orderedGoodsWhere (lit.text customer) (lit.text low) (lit.text weight)) := by
  show Fills lit ([customer] ++ [low] ++ [weight]) _ _
  unfold orderedGoodsWhere
  refine .append_unmarked (.append ?_ (.marker weight)) (by decide)
  refine .append_unmarked (.append ?_ (.marker low)) (by decide)
  refine .append_unmarked (.append_unmarked ?_ (by decide)) (by decide)
  exact .prepend (by decide) (.marker customer)

theorem fills_orderedGoodsUpdate (lit : Literals) (land price customer low weight : Value) :
    Fills lit [land, price, customer, low, weight] (orderedGoodsUpdate "?" "?" "?" "?" "?")
      (orderedGoodsUpdate (lit.text land) (lit.text price) (lit.text customer) (lit.text low)
        (lit.text weight)) := by
  show Fills lit ([land] ++ [price] ++ [customer, low, weight]) _ _
  unfold orderedGoodsUpdate
  refine .append ?_ (fills_orderedGoodsWhere lit customer low weight)
  refine .append_unmarked (.append ?_ (.marker price)) (by decide)
  exact .append_unmarked (.prepend (by decide) (.marker land)) (by decide)

theorem fills_orderedGoodsDelete (lit : Literals) (customer low weight : Value) :
    Fills lit [customer, low, weight] (orderedGoodsDelete "?" "?" "?")
      (orderedGoodsDelete (lit.text customer) (lit.text low) (lit.text weight)) :=
  .prepend (by decide) (fills_orderedGoodsWhere lit customer low weight)

/-- A value in a join, one that is assigned beside a raw value, and those of a subquery and of a group:
    markers where they are sent, literals in the same places where they are filled in. -/
theorem fill_writing_orderedGoods :
    ∃ q p, orderedGoods.build = .ok q ∧ orderedGoods.inlined kindLiterals = .ok p ∧
      q.updateBuilt newPrice = .ok ⟨orderedGoodsUpdate "?" "?" "?" "?" "?",
        [.text "NO", .int 7, .text "ann", .int 10, .int 3]⟩ ∧
      p.updateBuilt (newPrice.inline kindLiterals) =
        .ok ⟨orderedGoodsUpdate "'a'" "1" "'a'" "1" "1", []⟩ ∧
      Text.fill ["'a'", "1", "'a'", "1", "1"] (orderedGoodsUpdate "?" "?" "?" "?" "?") =
        some (orderedGoodsUpdate "'a'" "1" "'a'" "1" "1") ∧
      Dialect.UpdateReads {} p ["\x60price\x60 = 1", "\x60stamp\x60 = now()"]
        (orderedGoodsUpdate "'a'" "1" "'a'" "1" "1") ∧
      q.deleteBuilt = .ok ⟨orderedGoodsDelete "?" "?" "?", [.text "ann", .int 10, .int 3]⟩ ∧
      p.deleteBuilt = .ok ⟨orderedGoodsDelete "'a'" "1" "1", []⟩ ∧
      Text.fill ["'a'", "1", "1"] (orderedGoodsDelete "?" "?" "?") =
        some (orderedGoodsDelete "'a'" "1" "1") ∧
      Dialect.DeleteReads {} p (orderedGoodsDelete "'a'" "1" "1") := by
  obtain ⟨q, hq⟩ : ∃ q, orderedGoods.build = .ok q := ⟨_, rfl⟩
  have hdialect : orderedGoods.build.map (fun q => q.setting.dialect) = .ok {} := rfl
  have hupdate : (orderedGoods.build >>= fun q => q.updateBuilt newPrice) =
      .ok ⟨orderedGoodsUpdate "?" "?" "?" "?" "?",
        [.text "NO", .int 7, .text "ann", .int 10, .int 3]⟩ := by decide +kernel
  have hdelete : (orderedGoods.build >>= Statement.deleteBuilt) =
      .ok ⟨orderedGoodsDelete "?" "?" "?", [.text "ann", .int 10, .int 3]⟩ := by decide +kernel
  rw [hq] at hdialect hupdate hdelete
  have hliterals : [.text "NO", .int 7, .text "ann", .int 10, .int 3].map kindLiterals.text =
      ["'a'", "1", "'a'", "1", "1"] := rfl
  have hfilledUpdate := Fills.iff_fill_eq.mp (fills_orderedGoodsUpdate kindLiterals (.text "NO")
    (.int 7) (.text "ann") (.int 10) (.int 3))
  have hfilledDelete := Fills.iff_fill_eq.mp (fills_orderedGoodsDelete kindLiterals (.text "ann")
    (.int 10) (.int 3))
  obtain ⟨p, hp, hfillUpdate, hfillDelete⟩ :=
    Chain.fill_writing kindLiterals orderedGoods_wellMarked orderedGoods_keepsProjection hq
  obtain ⟨updateText, hupdateText, hfillUpdate, _, hupdateReads⟩ :=
    hfillUpdate newPrice newPrice_unmarked _ hupdate
  obtain ⟨deleteText, hdeleteText, hfillDelete, hdeleteReads⟩ := hfillDelete _ hdelete
  obtain rfl := Option.some.inj (hfilledUpdate.symm.trans hfillUpdate)
  obtain rfl := Option.some.inj (hfilledDelete.symm.trans hfillDelete)
  rw [hliterals] at hfilledUpdate
  have hdialect : q.setting.dialect = {} := Except.ok.inj hdialect
  rw [hdialect] at hupdateReads hdeleteReads
  have hassignments : (newPrice.entries.map fun entry =>
      Dialect.quoteColumn {} (.named entry.1) ++ " = " ++ kindLiterals.written entry.2) =
      ["\x60price\x60 = 1", "\x60stamp\x60 = now()"] := by decide +kernel
  rw [hassignments] at hupdateReads
  exact ⟨q, p, hq, hp, hupdate, hupdateText, hfilledUpdate, hupdateReads, hdelete, hdeleteText,
    hfilledDelete, hdeleteReads⟩

end FluentSql
