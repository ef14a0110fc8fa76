import ScheduleSync.Transition

/-! What a run must come to, whichever permitted steps are taken: before the goal some
step is always possible, and no run goes on for ever without reaching it. -/
namespace ScheduleSync

variable {σ α β : Type*} {step : σ → α → Option σ} {ok : σ → α → Bool} {goal : σ → Prop} {s : σ}

inductive Inevitable (step : σ → α → Option σ) (ok : σ → α → Bool) (goal : σ → Prop) : σ → Prop
  | now {s : σ} (h : goal s) : Inevitable step ok goal s
  | next {s : σ} (hmove : ∃ t, Move step ok s t)
      (hrest : ∀ t, Move step ok s t → Inevitable step ok goal t) : Inevitable step ok goal s

namespace Inevitable

/-- The measure rule: under an invariant, every step before the goal is possible and
brings a well-founded measure down. -/
theorem of_measure {lt : β → β → Prop} (hwf : WellFounded lt) (measure : σ → β) {I : σ → Prop}
    (hmove : ∀ s, I s → ¬goal s → ∃ t, Move step ok s t)
    (hdown : ∀ s t, I s → ¬goal s → Move step ok s t → I t ∧ lt (measure t) (measure s))
    (hs : I s) : Inevitable step ok goal s := by
  have hall : ∀ b s, measure s = b → I s → Inevitable step ok goal s := by
    intro b
    induction b using hwf.induction with
    | h b ih =>
      intro s hb hs
      by_cases hgoal : goal s
      · exact .now hgoal
      · refine .next (hmove s hs hgoal) fun t ht => ?_
        obtain ⟨hinv, hlt⟩ := hdown s t hs hgoal ht
        rw [hb] at hlt
        exact ih (measure t) hlt t rfl hinv
  exact hall (measure s) s rfl hs

theorem and_invariant {I : σ → Prop} (h : Inevitable step ok goal s) (hs : I s)
    (hstep : ∀ s a s', ok s a = true → I s → step s a = some s' → I s') :
    Inevitable step ok (fun t => goal t ∧ I t) s := by
  induction h with
  | now h => exact .now ⟨h, hs⟩
  | next hmove _ ih =>
    refine .next hmove fun t ht => ih t ht ?_
    obtain ⟨a, hok, ha⟩ := ht
    exact hstep _ a t hok hs ha

theorem mono {goal' : σ → Prop} (h : Inevitable step ok goal s) (himp : ∀ t, goal t → goal' t) :
    Inevitable step ok goal' s := by
  induction h with
  | now h => exact .now (himp _ h)
  | next hmove _ ih => exact .next hmove ih

end Inevitable
end ScheduleSync
