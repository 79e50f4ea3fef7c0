import Testbed.Proofs.Acts

/-!
# What a session asks

Whether the environment is up and what its node groups logged are questions: a session that answers
them asks its provider for the health of the cluster and for logs, and neither changes its document
nor saves it.
-/

namespace Testbed

/-- The event is a question to the provider that was asked with this document in memory. -/
inductive Event.Question (d : StateDocument) : Event → Prop
  | health (failure : Option ProviderError) : Question d (.call .checkHealth d failure)
  | logs (k : NodeGroupKind) (failure : Option ProviderError) :
      Question d (.call (.fetchLogs (.nodeGroup k)) d failure)

namespace Session

variable {ω : Type} {h : Host ω} {s t : Session ω}

/-- Questions are asked, and nothing is changed. -/
def asking : Policy where
  call _ c := c = .checkHealth ∨ ∃ k, c = .fetchLogs (.nodeGroup k)
  change _ := False

theorem does_isUp (h : Host ω) (s : Session ω) : Does asking h s (s.isUp h).2 := by
  have asked := (traced_perform (P := asking) (h := h) (s := s) .checkHealth (.inl rfl)).does
  unfold isUp
  cases s.document.up with
  | false => exact .refl s
  | true =>
    generalize perform h .checkHealth s = x at asked ⊢
    obtain ⟨r, t⟩ := x
    cases r <;> exact asked

theorem does_dumpLogsOf (h : Host ω) (k : NodeGroupKind) (s : Session ω) :
    Does asking h s (s.dumpLogsOf h k).2 := by
  have asked := (traced_perform (P := asking) (h := h) (s := s) (.fetchLogs (.nodeGroup k))
    (.inr ⟨k, rfl⟩)).does
  unfold dumpLogsOf
  dsimp only
  generalize perform h (.fetchLogs (.nodeGroup k)) s = x at asked ⊢
  obtain ⟨r, t⟩ := x
  split
  · exact .refl s
  · split
    · exact .refl s
    · split
      · exact .refl s
      · cases r <;> exact asked

theorem does_dumpLogs (h : Host ω) (s : Session ω) : Does asking h s (s.dumpLogs h).2 := by
  unfold dumpLogs
  induction NodeGroupKind.all generalizing s with
  | nil => exact .refl s
  | cons k ks ih =>
    have first := does_dumpLogsOf h k s
    unfold runAll
    generalize s.dumpLogsOf h k = x at first ⊢
    obtain ⟨r, t⟩ := x
    cases r with
    | error e => exact first
    | ok _ => exact first.trans (ih t)

/-- **A session that only asks** has the document that it had, and all it did was to ask. -/
theorem Does.questions (does : Does asking h s t) :
    t.document = s.document ∧
      ∃ es, t.history = s.history ++ es ∧ ∀ e ∈ es, e.Question s.document := by
  have step (t : Session ω) (a : Act) (same : t.document = s.document)
      (allowed : asking.Allows t.stop a) :
      (t.act h a).document = s.document ∧ ∀ e ∈ eventsOf h t a, e.Question s.document := by
    cases a with
    | call c =>
      refine ⟨same, fun e mem => ?_⟩
      rw [List.mem_singleton.1 mem, same]
      obtain rfl | ⟨k, rfl⟩ := allowed
      · exact .health _
      · exact .logs k _
    | save change => exact allowed.elim
    | _ => exact ⟨same, fun _ mem => nomatch mem⟩
  exact does.invariant (fun t => t.document = s.document) _ step rfl

end Session

end Testbed
