import FluentSql.Proofs.Alignment.Clauses
import FluentSql.Proofs.Embedded.Revision

/-!
# `Leading` — the connector that is left out

Conditions are written each with a connector before it, and then the earliest connector in the text is
removed, wherever it stands. The same letters occur elsewhere: in `vendor = ?`, between the bounds of a
range, in raw text and in groups. But the text begins with a connector, and so it is the first condition
that loses its own, whatever the conditions are.

## Contents
- `bareFirst`, lines in a row with every connector but the first.
- `Dialect.criterionTexts_eq_ok_iff`: a list of conditions has a text exactly if each condition has one.
- `Dialect.renderCriteria_bareFirst`, `renderJoin_bareFirst` and `predicateText_group_bareFirst`, and
  `Dialect.only_first_connector_omitted`, all three together.
-/

namespace FluentSql

/-! ## Lines in a row -/

/-- Lines in a row, separated by single blanks: the first one bare, every other one after its
    connector. -/
def bareFirst : List (Connector × String) → String
  | [] => ""
  | (_, body) :: lines =>
    body ++ String.join (lines.map fun line => " " ++ line.1.word ++ " " ++ line.2)

/-- Blanks between texts are blanks before all of them but the first. -/
theorem intercalate_connected (body : String) (lines : List (Connector × String)) :
    " ".intercalate (body :: lines.map connected) =
      body ++ String.join (lines.map fun line => " " ++ line.1.word ++ " " ++ line.2) := by
  induction lines generalizing body with
  | nil => simp
  | cons line lines ih =>
    rw [List.map_cons, String.intercalate_cons_cons, ih, List.map_cons, String.join_cons, connected]
    simp only [String.append_assoc]

/-- **What is left of the connectors.** The earliest one in the text is that of the first line. -/
theorem conjoin_connected (lines : List (Connector × String)) :
    Dialect.conjoin (lines.map connected) = bareFirst lines := by
  cases lines with
  | nil => rfl
  | cons line lines =>
    rw [List.map_cons, conjoin_cons, intercalate_connected]
    rfl

/-! ## Conditions and their bodies -/

namespace Dialect

variable (d : Dialect)

/-- The texts of conditions, one for each, without connectors. -/
def Bodies (criteria : List Criterion) (bodies : List String) : Prop :=
  List.Forall₂ (fun c body => d.predicateText c.predicate = .ok body) criteria bodies

/-- Conditions with their bodies, as lines. -/
def linesOf (criteria : List Criterion) (bodies : List String) : List (Connector × String) :=
  List.zipWith (fun c body => (c.connector, body)) criteria bodies

/-- **A list of conditions.** It has texts exactly if each of its conditions has one, and they are these
    with the connectors before them. -/
theorem criterionTexts_eq_ok_iff {criteria : List Criterion} {texts : List String} :
    d.criterionTexts criteria = .ok texts ↔
      ∃ bodies, d.Bodies criteria bodies ∧ texts = (linesOf criteria bodies).map connected := by
  induction criteria generalizing texts with
  | nil =>
    constructor
    · intro h
      obtain rfl : [] = texts := Except.ok.inj h
      exact ⟨[], .nil, rfl⟩
    · rintro ⟨bodies, hbodies, rfl⟩
      cases hbodies
      rfl
  | cons c criteria ih =>
    rw [criterionTexts, criterionText_eq]
    constructor
    · intro h
      obtain ⟨line, hline, h⟩ := bind_eq_ok.mp h
      obtain ⟨body, hbody, hline⟩ := bind_eq_ok.mp hline
      obtain ⟨rest, hrest, h⟩ := bind_eq_ok.mp h
      obtain rfl : connected (c.connector, body) = line := Except.ok.inj hline
      obtain rfl : connected (c.connector, body) :: rest = texts := Except.ok.inj h
      obtain ⟨bodies, hbodies, rfl⟩ := ih.mp hrest
      exact ⟨body :: bodies, .cons hbody hbodies, rfl⟩
    · rintro ⟨bodies, hbodies, rfl⟩
      cases hbodies with
      | cons hbody hrest =>
        have htexts := ih.mpr ⟨_, hrest, rfl⟩
        rw [hbody, htexts]
        rfl

/-- Where there are conditions, their bodies make lines. -/
theorem linesOf_ne_nil {criteria : List Criterion} {bodies : List String} (hne : criteria ≠ [])
    (hbodies : d.Bodies criteria bodies) : linesOf criteria bodies ≠ [] := by
  cases hbodies with
  | nil => exact absurd rfl hne
  | cons _ _ => exact List.cons_ne_nil _ _

/-! ## Clauses, joins and groups -/

/-- **A clause.** After the keyword stand the conditions, the first one without its connector. -/
theorem renderCriteria_bareFirst {criteria : List Criterion} (hne : criteria ≠ [])
    {keyword text : String} :
    d.renderCriteria keyword criteria = .ok text ↔
      ∃ bodies, d.Bodies criteria bodies ∧
        text = keyword ++ " " ++ bareFirst (linesOf criteria bodies) := by
  have hclause : ∀ bodies, d.Bodies criteria bodies →
      keywordBefore keyword ((linesOf criteria bodies).map connected) =
        keyword ++ " " ++ bareFirst (linesOf criteria bodies) := by
    intro bodies hbodies
    have hlines := d.linesOf_ne_nil hne hbodies
    simp only [keywordBefore, List.isEmpty_map, List.isEmpty_iff, hlines, if_false, conjoin_connected]
  rw [renderCriteria, map_eq_ok]
  constructor
  · rintro ⟨texts, htexts, rfl⟩
    obtain ⟨bodies, hbodies, rfl⟩ := d.criterionTexts_eq_ok_iff.mp htexts
    exact ⟨bodies, hbodies, hclause bodies hbodies⟩
  · rintro ⟨bodies, hbodies, rfl⟩
    exact ⟨_, d.criterionTexts_eq_ok_iff.mpr ⟨bodies, hbodies, rfl⟩, hclause bodies hbodies⟩

/-- **A join.** After `ON` stand its conditions, the first one without its connector. -/
theorem renderJoin_bareFirst {j : Join} (hne : j.constraints ≠ []) :
    d.renderJoin j =
      j.kind.word ++ " JOIN " ++ d.quoteTable j.table ++ " ON "
        ++ bareFirst (j.constraints.map d.joinLine) := by
  have hlines : j.constraints.map d.renderJoinConstraint =
      (j.constraints.map d.joinLine).map connected := by
    rw [renderJoinConstraint_eq, List.map_map]
    rfl
  have hon : Text.dropFirstConnector (" ".intercalate (j.constraints.map d.renderJoinConstraint)) =
      bareFirst (j.constraints.map d.joinLine) := by
    rw [hlines]
    exact conjoin_connected _
  simp only [renderJoin, List.isEmpty_iff, hne, if_false, hon]

/-- **A group.** Its conditions stand in parentheses, the first one without its connector and without a
    keyword. -/
theorem predicateText_group_bareFirst {q : Statement} {text : String} :
    d.predicateText (.group q) = .ok text ↔
      ∃ bodies, d.Bodies q.wheres bodies ∧
        text = "(" ++ bareFirst (linesOf q.wheres bodies) ++ ")" := by
  rw [predicateText, groupTexts_eq, bind_eq_ok]
  constructor
  · rintro ⟨texts, htexts, h⟩
    obtain rfl : "(" ++ conjoin texts ++ ")" = text := Except.ok.inj h
    obtain ⟨bodies, hbodies, rfl⟩ := d.criterionTexts_eq_ok_iff.mp htexts
    exact ⟨bodies, hbodies, by rw [conjoin_connected]⟩
  · rintro ⟨bodies, hbodies, rfl⟩
    refine ⟨_, d.criterionTexts_eq_ok_iff.mpr ⟨bodies, hbodies, rfl⟩, ?_⟩
    rw [conjoin_connected]
    rfl

/-- **Only the first connector is left out**, whatever the conditions are made of: after any keyword, in
    joins and in groups. A clause and a group have a text exactly if each of their conditions has one. -/
theorem only_first_connector_omitted :
    (∀ (keyword text : String) (criteria : List Criterion), criteria ≠ [] →
      (d.renderCriteria keyword criteria = .ok text ↔
        ∃ bodies, d.Bodies criteria bodies ∧
          text = keyword ++ " " ++ bareFirst (linesOf criteria bodies))) ∧
    (∀ j : Join, j.constraints ≠ [] →
      d.renderJoin j =
        j.kind.word ++ " JOIN " ++ d.quoteTable j.table ++ " ON "
          ++ bareFirst (j.constraints.map d.joinLine)) ∧
    ∀ (q : Statement) (text : String),
      d.predicateText (.group q) = .ok text ↔
        ∃ bodies, d.Bodies q.wheres bodies ∧
          text = "(" ++ bareFirst (linesOf q.wheres bodies) ++ ")" := by
  refine ⟨?_, ?_, ?_⟩
  · intro keyword text criteria hne
    exact d.renderCriteria_bareFirst hne
  · intro j hne
    exact d.renderJoin_bareFirst hne
  · intro q text
    exact d.predicateText_group_bareFirst

end Dialect

/-! ## Names and texts that hold connectors -/

/-- Goods of any finish, or of a brand. -/
def finishGroup : Statement :=
  { Statement.fresh {} with
    wheres := [⟨.or, .raw "color OR finish"⟩, ⟨.or, .nullCheck (.named "band Or brand") true⟩] }

/-- Conditions on a name, on a group and on a price. -/
def vendorConditions : List Criterion :=
  [⟨.or, .comparison (.named "vendor and maker") "=" (.text "Ørsted And Sons")⟩,
   ⟨.and, .group finishGroup⟩,
   ⟨.or, .between (.named "price") (.int 1) (.int 9) false⟩]

/-- Vendors of the same land, or of none. -/
def vendorJoin : Join :=
  let ofLand := (Join.mk (.named "vendors") .left []).on .or (.named "vendor or") "="
    (.named "land and sea")
  ofLand.nullCheck .or false (.named "land")

/-- The bodies of the conditions hold connectors in a name, in a group and between bounds. -/
theorem only_first_connector_omitted_vendor :
    let d : Dialect := {}
    d.renderCriteria "HAVING" vendorConditions =
        .ok ("HAVING \x60vendor and maker\x60 = ? AND (color OR finish OR "
          ++ "\x60band Or brand\x60 IS NOT NULL) OR \x60price\x60 BETWEEN ? AND ?") ∧
      d.renderJoin vendorJoin =
        "LEFT JOIN \x60vendors\x60 ON \x60vendor or\x60 = \x60land and sea\x60 "
          ++ "OR \x60land\x60 IS NULL" := by
  intro d
  obtain ⟨hclause, hjoin, hgroup⟩ := d.only_first_connector_omitted
  have hname : d.predicateText (.comparison (.named "vendor and maker") "=" (.text "Ørsted And Sons")) =
      .ok "\x60vendor and maker\x60 = ?" := by decide +kernel
  have hprice : d.predicateText (.between (.named "price") (.int 1) (.int 9) false) =
      .ok "\x60price\x60 BETWEEN ? AND ?" := by decide +kernel
  have hbrand : d.predicateText (.nullCheck (.named "band Or brand") true) =
      .ok "\x60band Or brand\x60 IS NOT NULL" := by decide +kernel
  have hfinish := (hgroup finishGroup _).mpr ⟨_, .cons rfl (.cons hbrand .nil), rfl⟩
  refine ⟨?_, ?_⟩
  · refine (hclause _ _ vendorConditions (List.cons_ne_nil _ _)).mpr
      ⟨_, .cons hname (.cons hfinish (.cons hprice .nil)), ?_⟩
    decide +kernel
  · rw [hjoin vendorJoin (List.cons_ne_nil _ _)]
    decide +kernel

end FluentSql
