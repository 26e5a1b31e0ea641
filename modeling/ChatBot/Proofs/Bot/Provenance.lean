import ChatBot.Proofs.Bot.Registrations
import ChatBot.Proofs.Program.Workload
import ChatBot.Proofs.Text.Trim

/-!
Where responses come from. Messages that a bot handles are errands on its state, whichever order their programs take turns in. Only the
turns of an errand add to its responses, and each of them is to the message of the errand.
-/
set_option autoImplicit false

namespace ChatBot

namespace Workload
variable {σ : Type} {w : Workload σ}

theorem length_errands_run (w : Workload σ) (moves : List (Move σ)) :
    (w.run moves).errands.length = w.errands.length := by
  induction moves generalizing w with
  | nil => rfl
  | cons m moves ih =>
    refine (ih (w.move m)).trans ?_
    cases m with
    | change f => rfl
    | turn place stops turn =>
      rw [move]
      split
      · rfl
      · exact List.length_set

theorem errands_turn_of_ne {i j : ℕ} (hne : j ≠ i) (w : Workload σ) (stops : Pause → Bool) (turn : Turn) :
    (w.move (.turn j stops turn)).errands[i]? = w.errands[i]? := by
  rw [errands_move]
  simp only [Errand.moved, if_neg hne, Option.map_id']

end Workload

namespace Bot
variable {τ : Type}

/-! ## Handling as turns -/

theorem handleAll_eq (bot : Bot τ) (messages : List Message) (w : World τ) :
    bot.handleAll messages w = ((Errand.runAll quiet (messages.map bot.errand) w).1.map Errand.responses,
      (Errand.runAll quiet (messages.map bot.errand) w).2) := by
  rw [handleAll]

theorem handle_eq (bot : Bot τ) (m : Message) (w : World τ) :
    bot.handle m w = ((Errand.runAll quiet [bot.errand m] w).1.flatMap Errand.responses,
      (Errand.runAll quiet [bot.errand m] w).2) := by
  rw [handle]

/-- Messages that arrive together are handled in turns of their errands. -/
theorem exists_moves_handleAll (bot : Bot τ) (messages : List Message) (w : World τ) :
    ∃ (moves : List (Move (World τ))) (rests : List (Errand (World τ))), (∀ move ∈ moves, move.isTurn = true) ∧
      (⟨w, messages.map bot.errand⟩ : Workload (World τ)).run moves = ⟨(bot.handleAll messages w).2.1, rests⟩ ∧
      (bot.handleAll messages w).1 = rests.map Errand.responses := by
  obtain ⟨moves, hturns, hrun⟩ := Workload.exists_moves_runAll quiet (messages.map bot.errand) w
  rw [handleAll_eq]
  exact ⟨moves, _, hturns, hrun, rfl⟩

theorem exists_moves_handle (bot : Bot τ) (m : Message) (w : World τ) :
    ∃ (moves : List (Move (World τ))) (rest : Errand (World τ)), (∀ move ∈ moves, move.isTurn = true) ∧
      (⟨w, [bot.errand m]⟩ : Workload (World τ)).run moves = ⟨(bot.handle m w).2.1, [rest]⟩ ∧
      (bot.handle m w).1 = rest.responses ∧ rest ∈ (Errand.runAll quiet [bot.errand m] w).1 := by
  obtain ⟨moves, hturns, hrun⟩ := Workload.exists_moves_runAll quiet [bot.errand m] w
  have hlength := Workload.length_errands_run (⟨w, [bot.errand m]⟩ : Workload (World τ)) moves
  rw [handle_eq]
  generalize Errand.runAll quiet [bot.errand m] w = run at hrun
  rw [hrun] at hlength
  obtain ⟨rest, hrest⟩ : ∃ rest, run.1 = [rest] := List.length_eq_one_iff.mp hlength
  rw [hrest] at hrun ⊢
  exact ⟨moves, rest, hturns, hrun, List.flatMap_singleton .., List.mem_cons_self⟩

end Bot

/-! ## Responses to a message -/

/-- The response goes to the message's channel and source, says something and begins and ends with it, and either replies to the
message or says something to the channel. -/
structure Response.Belongs (r : Response) (m : Message) : Prop where
  channel : r.channel = m.channel
  source : r.source = m.source
  trimmed : Text.trim r.content = r.content
  not_blank : r.content ≠ []
  kind : (r.kind = .reply ∧ r.replyTo = some m.id ∧ r.recipient = some m.sender) ∨
    (r.kind = .say ∧ r.replyTo = none ∧ r.recipient = none)

theorem Errand.belongs_of_responseOf? {m : Message} {output : Program.Output} {r : Response}
    (h : responseOf? m output = some r) : r.Belongs m := by
  cases output with
  | note n => cases h
  | response kind text =>
    obtain ⟨content, hcontent, rfl⟩ := Option.map_eq_some_iff.mp h
    rw [deliverable?] at hcontent
    split at hcontent
    · cases hcontent
    · rename_i hblank
      obtain rfl := Option.some.inj hcontent
      have hne : Text.trim text ≠ [] := by simpa using hblank
      cases kind with
      | say => exact ⟨rfl, rfl, Text.trim_trim text, hne, .inr ⟨rfl, rfl, rfl⟩⟩
      | reply => exact ⟨rfl, rfl, Text.trim_trim text, hne, .inl ⟨rfl, rfl, rfl⟩⟩

namespace Bot
variable {τ : Type}

/-- Whatever moves there were, the responses of an errand are those that its own turns have told. -/
theorem told_of_run {bot : Bot τ} {crowd : Workload (World τ)} {place : ℕ} {m : Message}
    (ht : crowd.errands[place]? = some (bot.errand m)) (moves : List (Move (World τ))) :
    ∃ rest, (crowd.run moves).errands[place]? = some rest ∧ (bot.errand m).Leaves (crowd.told place moves) rest ∧
      rest.responses = (crowd.told place moves).filterMap fun output => Errand.responseOf? m output.2 := by
  obtain ⟨rest, hrest, hleaves⟩ := Workload.leaves_run ht moves
  refine ⟨rest, hrest, hleaves, ?_⟩
  rw [hleaves.responses, Errand.Told.map_snd_answers]
  rfl

theorem belongs_of_told {m : Message} {rest : Errand (World τ)} {outputs : Errand.Told} {r : Response}
    (h : rest.responses = outputs.filterMap fun output => Errand.responseOf? m output.2) (hr : r ∈ rest.responses) :
    r.Belongs m := by
  rw [h] at hr
  obtain ⟨output, -, hresponse⟩ := List.mem_filterMap.mp hr
  exact Errand.belongs_of_responseOf? hresponse

theorem belongs_of_mem_handle {bot : Bot τ} {m : Message} {w : World τ} {r : Response} (hr : r ∈ (bot.handle m w).1) :
    r.Belongs m := by
  obtain ⟨moves, last, -, hrun, hlast, -⟩ := bot.exists_moves_handle m w
  have ht : (⟨w, [bot.errand m]⟩ : Workload (World τ)).errands[0]? = some (bot.errand m) := rfl
  obtain ⟨rest, hrest, -, htold⟩ := told_of_run ht moves
  have hsame : last = rest := by
    rw [hrun] at hrest
    exact Option.some.inj hrest
  rw [hlast, hsame] at hr
  exact belongs_of_told htold hr

/-- Whatever a bot's handlers do, and in whatever order they take turns among other changes of the world: the responses to each of
several messages are those that the turns of its own errand tell, no turn of another errand adds to them, and every one belongs to
the message. Handling the messages together comes to such turns. -/
theorem responses_belong_to_their_message (bot : Bot τ) (messages : List Message) (w : World τ) :
    (∃ moves rests, (∀ move ∈ moves, move.isTurn = true) ∧
      (⟨w, messages.map bot.errand⟩ : Workload (World τ)).run moves = ⟨(bot.handleAll messages w).2.1, rests⟩ ∧
      (bot.handleAll messages w).1 = rests.map Errand.responses) ∧
    ∀ (moves : List (Move (World τ))) (i : ℕ) (m : Message), messages[i]? = some m →
      let crowd : Workload (World τ) := ⟨w, messages.map bot.errand⟩
      ∃ rest, (crowd.run moves).errands[i]? = some rest ∧
        rest.responses = (crowd.told i moves).filterMap (fun output => Errand.responseOf? m output.2) ∧
        (∀ j stops turn, j ≠ i → ((crowd.run moves).move (.turn j stops turn)).errands[i]? = some rest) ∧
        ∀ r ∈ rest.responses, r.Belongs m := by
  refine ⟨bot.exists_moves_handleAll messages w, fun moves i m hm => ?_⟩
  have ht : (⟨w, messages.map bot.errand⟩ : Workload (World τ)).errands[i]? = some (bot.errand m) := by
    rw [List.getElem?_map, hm, Option.map_some]
  obtain ⟨rest, hrest, -, htold⟩ := told_of_run ht moves
  refine ⟨rest, hrest, htold, fun j stops turn hne => ?_, fun r hr => belongs_of_told htold hr⟩
  rw [Workload.errands_turn_of_ne hne, hrest]

/-- A bot with all features, and two messages whose commands take their turns the other way round. -/
theorem responses_belong_to_their_message_of_two :
    let ana : Message := ⟨"#lobby", "ana", "!uptime", [], "console", "m0"⟩
    let bob : Message := ⟨"#den", "bob", "!help", [], "web", "m1"⟩
    let w : World Milliseconds :=
      { files := ⟨[]⟩, clock := ⟨0⟩, replies := [], draws := [], shelf := ⟨.ofText "commands.json", [], false⟩,
        lastChatter := none }
    let moves : List (Move (World Milliseconds)) := [.turn 1 quiet .command, .turn 0 quiet .command]
    [ana, bob][0]? = some ana ∧ ∃ bot, full Settings.standard ⟨0⟩ = .ok bot ∧
      let crowd : Workload (World Milliseconds) := ⟨w, [ana, bob].map bot.errand⟩
      ∃ rest, (crowd.run moves).errands[0]? = some rest ∧ rest.responses.length = 1 ∧ ∀ r ∈ rest.responses, r.Belongs ana := by
  intro ana bob w moves
  have hfull := full_eq_ok Settings.standard (⟨0⟩ : Milliseconds)
  refine ⟨rfl, _, hfull, ?_⟩
  intro crowd
  obtain ⟨-, hbelong⟩ := responses_belong_to_their_message _ [ana, bob] w
  obtain ⟨rest, hrest, -, -, hall⟩ := hbelong moves 0 ana rfl
  have hone : (crowd.run moves).errands[0]?.map (fun t => t.responses.length) = some 1 := by decide +kernel
  rw [hrest, Option.map_some] at hone
  exact ⟨rest, hrest, Option.some.inj hone, hall⟩

end Bot
end ChatBot
