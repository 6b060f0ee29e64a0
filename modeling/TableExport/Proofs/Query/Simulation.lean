import Mathlib.Data.List.Forall2
import TableExport.Proofs.Query.Run

/-! # Runs side by side

Two steps simulate each other if they do the same to related sessions: both are taken, and the
sessions stay related, or both are refused with the same fault.  Two runs of such steps keep their
sessions related and end with the same fault (`perform_simulates`), and so do two plans
(`Plan.carryOut_simulates`). -/

namespace TableExport

/-- On related sessions both steps are taken, and the sessions after them are related, or both are
refused for the same reason. -/
def Step.Simulates (related : Session → Session → Prop) (step other : Step) : Prop :=
  ∀ s t, related s t →
    (∃ s' t', step.take? s = .ok s' ∧ other.take? t = .ok t' ∧ related s' t') ∨
      ∃ fault, step.take? s = .error fault ∧ other.take? t = .error fault

variable {related : Session → Session → Prop}

theorem perform_simulates {steps others : List Step}
    (h : List.Forall₂ (Step.Simulates related) steps others) {s t : Session} (hs : related s t) :
    related (perform steps s).1 (perform others t).1 ∧
      (perform steps s).2 = (perform others t).2 := by
  induction h generalizing s t with
  | nil => exact ⟨hs, rfl⟩
  | cons hhead _ ih =>
      rw [perform, perform]
      rcases hhead s t hs with ⟨s', t', hs', ht', hnext⟩ | ⟨fault, hs', ht'⟩
      · rw [hs', ht']
        exact ih hnext
      · rw [hs', ht']
        exact ⟨hs, rfl⟩

namespace Plan

theorem carryOut_simulates {plan other : Plan}
    (hsteps : List.Forall₂ (Step.Simulates related) plan.steps other.steps)
    (hfault : plan.fault = other.fault) {s t : Session} (hs : related s t) :
    related (plan.carryOut s).1 (other.carryOut t).1 ∧
      (plan.carryOut s).2 = (other.carryOut t).2 := by
  obtain ⟨hlast, hrefused⟩ := perform_simulates hsteps hs
  unfold carryOut
  cases hrun : perform plan.steps s with
  | mk last fault? =>
      cases hrun' : perform other.steps t with
      | mk last' fault?' =>
          rw [hrun, hrun'] at hlast hrefused
          obtain rfl : fault? = fault?' := hrefused
          cases fault? with
          | none => exact ⟨hlast, hfault⟩
          | some fault => exact ⟨hlast, rfl⟩

/-- Two parts are at fault for the same reason, or their steps are related one by one. -/
inductive PartsAlike (matched : Step → Step → Prop) :
    Except Fault (List Step) → Except Fault (List Step) → Prop
  | ok {steps others : List Step} (h : List.Forall₂ matched steps others) :
      PartsAlike matched (.ok steps) (.ok others)
  | error (fault : Fault) : PartsAlike matched (.error fault) (.error fault)

/-- Plans whose parts are alike have steps that are related one by one, and the same fault. -/
theorem ofParts_alike {matched : Step → Step → Prop}
    {parts others : List (Except Fault (List Step))}
    (h : List.Forall₂ (PartsAlike matched) parts others) :
    List.Forall₂ matched (ofParts parts).steps (ofParts others).steps ∧
      (ofParts parts).fault = (ofParts others).fault := by
  induction h with
  | nil => exact ⟨.nil, rfl⟩
  | cons hhead _ ih =>
      cases hhead with
      | ok hsteps => exact ⟨List.rel_append hsteps ih.1, ih.2⟩
      | error fault => exact ⟨.nil, rfl⟩

end Plan
end TableExport
