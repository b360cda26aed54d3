import FluentSql.Proofs.Alignment.Simulation

/-!
# `Alignment.Select` — the values of a SELECT stand where they were given

A SELECT is sent as text and values apart. An engine puts the values together with the markers by their
order alone, and it reads the statement that the calls describe: the one in which every value is written
where its call has it.

## Contents
- `Chain.fill_selectSql`, for every chain of calls that keeps its projection.
-/

namespace FluentSql

/-- **Positional alignment of a SELECT.** Whatever the literals, those of the bound values, written in
    place of the markers from left to right, use up markers and values together. The text is the one
    that the same calls build with the literals among their arguments; nothing is bound to that one. -/
theorem Chain.fill_selectSql (lit : Literals) {chain : Chain} (hc : chain.WellMarked)
    (hk : chain.ShowsProjection) {q : Statement} (h : chain.build = .ok q) {sql : String}
    (hsql : q.selectSql = .ok sql) :
    ∃ p text, chain.inlined lit = .ok p ∧ p.selectBuilt = .ok ⟨text, []⟩ ∧
      Text.fill (q.bound.map lit.text) sql = some text := by
  obtain ⟨p, hp, htwin⟩ := twin_run_exact lit hc hk.1 h
  have hclean : q.Clean := clean_run hc h
  have hcompiled : CompiledTwin .exact lit q p :=
    htwin.compiled hclean (rawFree_run h) fun _ => hk.2 q h
  -- used up exactly: what is used is all that is bound
  obtain ⟨text, htext, used, hused, hfills⟩ := hcompiled.text _ hclean.dialect sql hsql
  obtain rfl : used = q.bound := hused
  refine ⟨p, text, hp, ?_, Fills.iff_fill_eq.mp hfills⟩
  refine map_eq_ok.mpr ⟨text, ?_, by rw [htwin.bound_eq_nil]⟩
  rw [Statement.selectSql, htwin.setting]
  exact htext

/-! ## A chain with values in every place -/

/-- Literals that tell the kinds of values apart. -/
def kindLiterals : Literals where
  text v := match v with
    | .int _ => "1"
    | .text _ => "'a'"
    | _ => "0"
  solid v := by split <;> decide

/-- The orders of a customer. -/
def customerOrders : Chain :=
  ((Chain.fresh {}).plain (.table (.named "orders"))).plain
    (.compare .and (.named "customer") none (some (.value (.text "ann"))))

/-- Prices with a surcharge, of some goods and of what a customer ordered. -/
def surchargedPrices : Chain :=
  let goods := (((Chain.fresh {}).plain (.table (.named "goods"))).plain
    (.selectRaw "price + ?" [.int 5])).plain
    (.between .and false (.named "price") (.int 10) (.raw "20"))
  let among := Chain.call goods (.membership .or false (.named "id") (.query (.fresh {})))
    fun _ => customerOrders
  .call among (.union true (.fresh {})) fun _ => customerOrders

theorem customerOrders_wellMarked : customerOrders.WellMarked := by
  have htable : (Call.table (.named "orders")).WellMarked :=
    show Reference.Unmarked _ by decide
  have hcustomer : (Call.compare .and (.named "customer") none
      (some (.value (.text "ann")))).WellMarked :=
    ⟨by decide, fun o ho => by cases ho; exact trivial⟩
  exact (Chain.wellMarked_fresh.plain htable).plain hcustomer

theorem surchargedPrices_wellMarked : surchargedPrices.WellMarked := by
  have htable : (Call.table (.named "goods")).WellMarked :=
    show Reference.Unmarked _ by decide
  have hselect : (Call.selectRaw "price + ?" [.int 5]).WellMarked :=
    show Balanced _ _ by decide
  have hbetween : (Call.between .and false (.named "price") (.int 10) (.raw "20")).WellMarked :=
    ⟨by decide, trivial, show Text.Unmarked _ by decide⟩
  have hgoods := ((Chain.wellMarked_fresh.plain htable).plain hselect).plain hbetween
  exact ⟨⟨hgoods, ⟨by decide, trivial⟩, fun _ => customerOrders_wellMarked⟩, trivial,
    fun _ => customerOrders_wellMarked⟩

theorem customerOrders_showsProjection : customerOrders.ShowsProjection := by
  have hfresh : (Chain.fresh {}).KeepsProjection .whole := trivial
  exact ⟨(hfresh.plain (by nofun)).plain (by nofun),
    fun _ => Chain.showsProjection_of_aggregate_eq_none rfl⟩

theorem surchargedPrices_showsProjection : surchargedPrices.ShowsProjection := by
  have hfresh : (Chain.fresh {}).KeepsProjection .whole := trivial
  refine ⟨⟨⟨?_, by nofun, fun _ => customerOrders_showsProjection⟩, by nofun,
    fun _ => customerOrders_showsProjection⟩, fun _ => Chain.showsProjection_of_aggregate_eq_none rfl⟩
  exact ((hfresh.plain (by nofun)).plain (by nofun)).plain (by nofun)

/-- The SELECT, with texts for a surcharge, the end of a range and twice a customer. -/
def surchargedPricesSelect (surcharge low customer other : String) : String :=
  "SELECT price + " ++ surcharge ++ " FROM \x60goods\x60 WHERE \x60price\x60 BETWEEN " ++ low ++ " AND 20" ++
    " OR \x60id\x60 IN (SELECT * FROM \x60orders\x60 WHERE \x60customer\x60 = " ++ customer ++ ")" ++
    " UNION ALL SELECT * FROM \x60orders\x60 WHERE \x60customer\x60 = " ++ other

/-- Values of a projection, of a range, of a subquery and of a union: markers where they are sent, literals
    in the same places where they are filled in. -/
theorem fill_surchargedPrices :
    ∃ q p, surchargedPrices.build = .ok q ∧
      q.selectSql = .ok (surchargedPricesSelect "?" "?" "?" "?") ∧
      q.bound = [.int 5, .int 10, .text "ann", .text "ann"] ∧
      surchargedPrices.inlined kindLiterals = .ok p ∧
      p.selectBuilt = .ok ⟨surchargedPricesSelect "1" "1" "'a'" "'a'", []⟩ ∧
      Text.fill ["1", "1", "'a'", "'a'"] (surchargedPricesSelect "?" "?" "?" "?") =
        some (surchargedPricesSelect "1" "1" "'a'" "'a'") := by
  obtain ⟨q, hq⟩ : ∃ q, surchargedPrices.build = .ok q := ⟨_, rfl⟩
  have hsql : (surchargedPrices.build >>= Statement.selectSql) =
      .ok (surchargedPricesSelect "?" "?" "?" "?") := by decide +kernel
  have hbound : surchargedPrices.build.map Statement.bound =
      .ok [.int 5, .int 10, .text "ann", .text "ann"] := rfl
  have hfilled : Text.fill ["1", "1", "'a'", "'a'"] (surchargedPricesSelect "?" "?" "?" "?") =
      some (surchargedPricesSelect "1" "1" "'a'" "'a'") := by decide +kernel
  rw [hq] at hsql hbound
  obtain ⟨p, text, hp, htext, hfill⟩ := Chain.fill_selectSql kindLiterals surchargedPrices_wellMarked
    surchargedPrices_showsProjection hq hsql
  rw [Except.ok.inj hbound] at hfill
  obtain rfl := Option.some.inj (hfilled.symm.trans hfill)
  exact ⟨q, p, hq, hsql, Except.ok.inj hbound, hp, htext, hfilled⟩

end FluentSql
