import FluentSql.Proofs.Alignment.Compiled

/-!
# `Alignment.Simulation` — a chain and its inlined chain, call by call

The two chains are run side by side. Every chain that builds a statement builds a twin of it when its
calls are inlined; if no call drops a projection with values, the twin uses every value.

## Contents
- `Chain.twin_run_loose`, for every well marked chain.
- `Chain.given_exact`, from what is known of an embedded chain to what its receiver needs.
- `Chain.twin_run_exact`, for a chain that keeps its projection as far as a part of it is shown.
-/

namespace FluentSql

namespace Chain

variable {lit : Literals} {chain : Chain} {q : Statement}

/-- **Some values may be left over.** Induction on the chain; the embedded chains are compiled, so that
    the whole statement counts for them. -/
theorem twin_run_loose (lit : Literals) (hc : chain.WellMarked) (h : chain.build = .ok q) :
    ∃ p, chain.inlined lit = .ok p ∧ Twin .loose lit .whole q p := by
  induction chain generalizing q with
  | fresh setting =>
    obtain rfl := Except.ok.inj h
    exact ⟨_, rfl, .fresh setting⟩
  | call chain step source ih ihs =>
    obtain ⟨hchain, hstep, hsource⟩ := hc
    obtain ⟨q₀, queries, h₀, hqueries, h⟩ := run_call_eq_ok.mp h
    obtain ⟨p₀, hp₀, htwin⟩ := ih hchain h₀
    -- one twin serves every role, since nothing is asked of the values
    have hgiven : ∀ i e, (source i).build = .ok e → ∃ e', (source i).inlined lit = .ok e' ∧
        Given .loose lit .whole (step.role .whole) e e' := by
      intro i e he
      obtain ⟨e', he', htwin⟩ := ihs i (hsource i) he
      have hclean : e.Clean := clean_run (hsource i) he
      have hcompiled := htwin.compiled hclean (rawFree_run he) (fun h => (nomatch h))
      exact ⟨e', he', { compiled := fun _ => hcompiled
                        group := fun _ => htwin.groupTwin (rawFree_run he)
                        clean := hclean
                        setting := htwin.setting
                        rendered := hcompiled
                        merged := fun _ => htwin }⟩
    obtain ⟨queries', hqueries', hes⟩ := mapM_related hqueries (forall₂_ofFn hgiven)
    have hlen : queries.length = step.embedded.length := by
      rw [length_of_mapM hqueries, List.length_ofFn]
    obtain ⟨p, hp, htwin'⟩ := Call.twin_apply htwin (clean_run hchain h₀) hstep hlen hes
      (fun h => (nomatch h)) h
    exact ⟨p, run_call_eq_ok.mpr ⟨p₀, queries', hp₀, hqueries', hp⟩, htwin'⟩

/-- A chain that keeps its projection as its role asks gives a twin that is fit for this role. -/
theorem given_exact {part : Part} {role : Role} (hc : chain.WellMarked)
    (hkeep : match role with
      | .compiled => chain.KeepsProjection .whole ∧ ∀ q, chain.build = .ok q → q.ShowsProjection
      | .group => chain.KeepsProjection .conditions
      | .merged => chain.KeepsProjection part
      | .unused => True)
    (ih : ∀ part, chain.KeepsProjection part →
      ∃ p, chain.inlined lit = .ok p ∧ Twin .exact lit part q p)
    (h : chain.build = .ok q) :
    ∃ p, chain.inlined lit = .ok p ∧ Given .exact lit part role q p := by
  obtain ⟨p, hp, htwin⟩ := twin_run_loose lit hc h
  have hclean : q.Clean := clean_run hc h
  have hraw := rawFree_run h
  -- the two runs of the inlined chain are one
  have hsame : ∀ part, chain.KeepsProjection part → Twin .exact lit part q p := by
    intro part hpart
    obtain ⟨p', hp', htwin'⟩ := ih part hpart
    obtain rfl : p = p' := Except.ok.inj (hp.symm.trans hp')
    exact htwin'
  refine ⟨p, hp, ?_⟩
  exact {
    compiled := fun hrole => by
      subst hrole
      exact (hsame .whole hkeep.1).compiled hclean hraw fun _ => hkeep.2 q h
    group := fun hrole => by
      subst hrole
      exact (hsame .conditions hkeep).groupTwin hraw
    clean := hclean
    setting := htwin.setting
    rendered := htwin.compiled hclean hraw fun h => (nomatch h)
    merged := fun hrole => by
      subst hrole
      exact hsame part hkeep }

/-- **No value is left over.** Induction on the chain, for both parts of a statement at once: a group
    takes over the conditions of a statement, and these may embed whole statements again. -/
theorem twin_run_exact (lit : Literals) (hc : chain.WellMarked) {part : Part}
    (hk : chain.KeepsProjection part) (h : chain.build = .ok q) :
    ∃ p, chain.inlined lit = .ok p ∧ Twin .exact lit part q p := by
  induction chain generalizing q part with
  | fresh setting =>
    obtain rfl := Except.ok.inj h
    exact ⟨_, rfl, .fresh setting⟩
  | call chain step source ih ihs =>
    obtain ⟨hchain, hstep, hsource⟩ := hc
    obtain ⟨hkchain, hselect, hksource⟩ := hk
    obtain ⟨q₀, queries, h₀, hqueries, h⟩ := run_call_eq_ok.mp h
    obtain ⟨p₀, hp₀, htwin⟩ := ih hchain hkchain h₀
    -- which part of an embedded statement has to be compared is settled by its role
    have hgiven : ∀ i e, (source i).build = .ok e → ∃ e', (source i).inlined lit = .ok e' ∧
        Given .exact lit part (step.role part) e e' := fun i e he =>
      given_exact (hsource i) (hksource i) (fun part hpart => ihs i (hsource i) hpart he) he
    obtain ⟨queries', hqueries', hes⟩ := mapM_related hqueries (forall₂_ofFn hgiven)
    have hlen : queries.length = step.embedded.length := by
      rw [length_of_mapM hqueries, List.length_ofFn]
    obtain ⟨p, hp, htwin'⟩ := Call.twin_apply htwin (clean_run hchain h₀) hstep hlen hes
      (fun _ hpart columns hstep => hselect hpart columns hstep q₀ h₀) h
    exact ⟨p, run_call_eq_ok.mpr ⟨p₀, queries', hp₀, hqueries', hp⟩, htwin'⟩

end Chain

end FluentSql
