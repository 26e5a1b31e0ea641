import ChatBot.Proofs.Feature.CustomResponses
import ChatBot.Proofs.Program.Faults

/-!
The faults of features. With the argument it begins with, no command for custom responses and no lookup of a crate fails but where
the file cannot be written, or where a fault of the lookup is not answered in chat.
-/
set_option autoImplicit false

namespace ChatBot
variable {τ : Type}

/-! ## The faults of a change -/

namespace Storage.Shelf
open Program

theorem save_failsOnly : (save : Program (World τ) Unit).FailsOnly WriteFault := by
  refine (failsOnly_yield .write).bind fun _ => ?_
  intro outputs fault h
  rcases (yields_writeOut h).2 with hok | ⟨cause, hcause, herror⟩
  · cases hok
  · obtain rfl := Except.error.inj herror
    exact hcause

theorem set_failsOnly (channel name body : Text) :
    (set channel name body : Program (World τ) Unit).FailsOnly fun fault => WriteFault fault ∨ ∃ error, fault = .template error := by
  have hcompile : ∀ fault, (Template.compile name body).mapError Fault.template = .error fault →
      ∃ error, fault = .template error := by
    intro fault h
    cases htemplate : Template.compile name body with
    | ok template =>
      rw [htemplate] at h
      cases h
    | error error =>
      rw [htemplate] at h
      exact ⟨error, (Except.error.inj h).symm⟩
  exact (failsOnly_ofExcept fun fault h => .inr (hcompile fault h)).bind fun _ => (failsOnly_modify _).bind fun _ =>
    save_failsOnly.mono fun _ => .inl

theorem remove_failsOnly (channel name : Text) : (remove channel name : Program (World τ) Bool).FailsOnly WriteFault := by
  refine (failsOnly_update _).bind fun taken => ?_
  split
  · exact save_failsOnly.bind fun _ => failsOnly_pure _
  · exact failsOnly_pure _

theorem contains_failsOnly (channel name : Text) {allowed : Fault → Prop} :
    (contains channel name : Program (World τ) Bool).FailsOnly allowed :=
  (failsOnly_get.bind fun _ => failsOnly_pure _).bind fun _ => failsOnly_pure _

end Storage.Shelf

/-! ## The faults of handlers -/

namespace Feature
open Program Command

/-- An argument that is bound is there for the handler. -/
theorem get_failsOnly {σ : Type} {args : Arguments} {key : Text} (h : (args.get? key).isSome = true) {allowed : Fault → Prop} :
    (args.get key : Program σ Text).FailsOnly allowed := by
  obtain ⟨text, htext⟩ := Option.isSome_iff_exists.mp h
  refine failsOnly_ofExcept fun fault hfault => ?_
  rw [htext] at hfault
  cases hfault

namespace CustomResponses
open Storage.Shelf (WriteFault)

theorem update_failsOnly (channel name : Text) (body : Option Text) :
    (update channel name body : Program (World τ) Unit).FailsOnly WriteFault := by
  cases body with
  | none => exact failsOnly_reply _
  | some body =>
    rw [update]
    split
    · exact failsOnly_reply _
    · refine (Storage.Shelf.set_failsOnly channel name body).attempt_bind (fun _ => ?_) fun fault hfault => ?_
      · exact (failsOnly_record _).bind fun _ => failsOnly_reply _
      · rcases hfault with hwrite | ⟨error, rfl⟩
        · cases hwrite with
          | refused cause => exact failsOnly_fail (.refused cause)
          | noPath => exact failsOnly_fail .noPath
          | half => exact failsOnly_fail .half
        · exact failsOnly_reply _

/-- With a name to work on, a command for custom responses fails only where the file cannot be written. -/
theorem handler_failsOnly (op : Operation) {args : Arguments} (h : (args.get? "command").isSome = true) (m : Message) :
    (op.handler args m : Program (World τ) Unit).FailsOnly WriteFault := by
  cases op with
  | set => exact (get_failsOnly h).bind fun name => update_failsOnly _ _ _
  | add =>
    refine (get_failsOnly h).bind fun name => (Storage.Shelf.contains_failsOnly _ _).bind fun there => ?_
    split
    · exact failsOnly_reply _
    · exact update_failsOnly _ _ _
  | edit =>
    refine (get_failsOnly h).bind fun name => (Storage.Shelf.contains_failsOnly _ _).bind fun there => ?_
    split
    · exact update_failsOnly _ _ _
    · exact failsOnly_reply _
  | remove =>
    refine (get_failsOnly h).bind fun name => (Storage.Shelf.remove_failsOnly _ _).bind fun removed => ?_
    split
    · exact (failsOnly_record _).bind fun _ => failsOnly_reply _
    · exact failsOnly_reply _

end CustomResponses

namespace Crates

theorem present_failsOnly (query : Text) (crates : List Crate) {allowed : Fault → Prop} :
    (present query crates : Program (World τ) Unit).FailsOnly allowed := by
  cases crates with
  | nil => exact failsOnly_reply _
  | cons found crates =>
    refine (failsOnly_say _).bind fun _ => ?_
    split
    · split
      · exact (failsOnly_pure ()).bind fun _ => failsOnly_say _
      · exact (failsOnly_say _).bind fun _ => failsOnly_say _
    · exact (failsOnly_pure ()).bind fun _ => failsOnly_say _

/-- With a query to look up, the handler of crates fails only for what it does not answer in chat. -/
theorem handle_failsOnly (settings : Settings) {args : Arguments} (h : (args.get? "crate").isSome = true) (m : Message) :
    (handle settings args m : Program (World τ) Unit).FailsOnly fun fault => isAnswered fault = false := by
  refine (get_failsOnly h).bind fun query => ?_
  have hlookup : ((lookup query (.float settings.httpTimeout) : Program (World τ) _).during .lookup).FailsOnly fun _ => True :=
    fun _ _ _ => trivial
  refine hlookup.attempt_bind (fun crates => present_failsOnly query crates) fun fault _ => ?_
  dsimp only
  split
  · exact (failsOnly_record _).bind fun _ => failsOnly_reply _
  · rename_i hfault
    exact failsOnly_fail (by simpa using hfault)

end Crates
end Feature

end ChatBot
