import ChatBot.Proofs.Bot.Provenance
import ChatBot.Proofs.Command.Failing
import ChatBot.Proofs.Program.Fairness

/-!
What a failing handler can do to the others: nothing. A message's command and the passive handlers run beside each other and beside
everything else that goes on; each makes one complete run, whether it ends well or fails, and the responses to the message are what
these runs say. A handler that fails at its end instead of ending well changes none of them.
-/
set_option autoImplicit false

namespace ChatBot.Bot
variable {τ : Type}

theorem errand_passive (bot : Bot τ) (m : Message) (i : ℕ) :
    (bot.errand m).passives[i]? = bot.passives[i]?.map fun p => ⟨p.name, p.handle m⟩ := List.getElem?_map

/-! ## One run of every handler -/

/-- What the programs of an errand have told when it is over: one complete run of each handler, and nothing else. -/
structure RanOnce (bot : Bot τ) (m : Message) (told : Errand.Told) (command : Program (World τ) Bool) : Prop where
  unhandled : bot.registry.route m = .unhandled → command.ending? = some (.ok false)
  handled : bot.registry.route m ≠ .unhandled → command.ending? = some (.ok true)
  called : ∀ s bindings handler, bot.registry.route m = .call s bindings handler →
    ∃ said result, (handler ⟨s, bindings⟩ m).Yields said result ∧
      told.only .command = .note (.info ("dispatch.command" ++ Command.invocation s m)) :: said ++ Command.handlerNotes s result
  passive : ∀ (i : ℕ) (p : Feature.PassiveHandler (World τ)), bot.passives[i]? = some p →
    ∃ result, (p.handle m).Yields (told.only (.passive i)) result
  known : ∀ output ∈ told, output.1 = .command ∨ ∃ i : ℕ, output.1 = .passive i ∧ bot.passives[i]? ≠ none

theorem ranOnce_of_leaves {bot : Bot τ} {m : Message} {told : Errand.Told} {rest : Errand (World τ)}
    (h : (bot.errand m).Leaves told rest) (hended : rest.hasEnded = true) : bot.RanOnce m told rest.command := by
  rw [Errand.hasEnded, Bool.and_eq_true, Bool.and_eq_true] at hended
  obtain ⟨⟨hcommand, hpassives⟩, -⟩ := hended
  obtain ⟨ending, hending⟩ := Option.isSome_iff_exists.mp hcommand
  have hyields : (bot.registry.dispatch m).Yields (told.only .command) ending := h.command.yields hending
  obtain ⟨hunhandled, hhandled⟩ := Command.Registry.ending_of_yields_dispatch hyields
  refine ⟨fun hroute => by rw [hending, hunhandled hroute], fun hroute => by rw [hending, hhandled hroute],
    fun s bindings handler hroute => Command.Registry.yields_dispatch_of_call hroute hyields, fun i p hp => ?_,
    fun output houtput => ?_⟩
  · have hplace := h.passive i
    rw [errand_passive, hp, Option.map_some] at hplace
    rcases rel_cases hplace with ⟨hnone, -⟩ | ⟨p', rest', hp', hrest, -, hcontinues⟩
    · cases hnone
    · obtain rfl := Option.some.inj hp'
      have hdone : rest'.program.hasEnded = true := List.all_eq_true.mp hpassives rest' (List.mem_of_getElem? hrest)
      obtain ⟨result, hresult⟩ := Option.isSome_iff_exists.mp hdone
      exact ⟨result, hcontinues.yields hresult⟩
  · rcases h.known output houtput with hturn | ⟨i, hturn, hthere⟩
    · exact .inl hturn
    · refine .inr ⟨i, hturn, fun hnone => hthere ?_⟩
      rw [errand_passive, hnone, Option.map_none]

/-! ## Handlers that fail at their ends -/

/-- The bot, with those of its handlers made to fail at their ends for which there is a fault. -/
def failing (bot : Bot τ) (ofCommand : Command.Schema → Option Fault) (ofPassive : ℕ → Option Fault) : Bot τ where
  settings := bot.settings
  registry := bot.registry.failing ofCommand
  passives := bot.passives.mapIdx fun i p => ⟨p.name, fun m => (p.handle m).endingIn (ofPassive i)⟩

theorem echoes_errand_failing (bot : Bot τ) (ofCommand : Command.Schema → Option Fault) (ofPassive : ℕ → Option Fault)
    (m : Message) : (bot.errand m).Echoes ((bot.failing ofCommand ofPassive).errand m) := by
  refine ⟨rfl, rfl, bot.registry.echoes_dispatch_failing ofCommand m, fun i => ?_⟩
  rw [errand_passive, errand_passive, failing, List.getElem?_mapIdx]
  cases bot.passives[i]? with
  | none => exact .none
  | some p => exact .some (Program.echoes_endingIn (p.handle m) (ofPassive i))

theorem echoes_set {crowd : Workload (World τ)} {place : ℕ} {t t' : Errand (World τ)} (h : crowd.errands[place]? = some t)
    (hechoes : t.Echoes t') : crowd.Echoes ⟨crowd.state, crowd.errands.set place t'⟩ := by
  refine ⟨rfl, fun i => ?_⟩
  by_cases hi : place = i
  · subst hi
    rw [List.getElem?_set_self (List.getElem?_eq_some_iff.mp h).1, h]
    exact .some hechoes
  · rw [List.getElem?_set_ne hi]
    cases crowd.errands[i]? with
    | none => exact .none
    | some t => exact .some (.refl t)

/-- A message's handlers are arbitrary programs, and may fail. Whatever moves there are, the responses to the message are those its
own turns have told; once its errand is over, its command has ended well and each of its handlers has made one complete run; and the
errand comes to its end in every plan that is fair to it. The same handlers, some of them failing at their ends, tell the same
responses in the same moves and leave the same world. Handling the message comes to such moves. -/
theorem failing_handlers_do_no_harm (bot : Bot τ) (m : Message) :
    (∀ w, ∃ moves rest, (∀ move ∈ moves, move.isTurn = true) ∧
      (⟨w, [bot.errand m]⟩ : Workload (World τ)).run moves = ⟨(bot.handle m w).2.1, [rest]⟩ ∧
      (bot.handle m w).1 = rest.responses ∧ ((bot.errand m).NeverWaits → rest.hasEnded = true)) ∧
    ∀ (crowd : Workload (World τ)) (place : ℕ), crowd.errands[place]? = some (bot.errand m) →
      (∀ plan, crowd.Fair plan place →
        ∃ n rest, (crowd.after plan n).errands[place]? = some rest ∧ rest.hasEnded = true) ∧
      ∀ moves,
        (∃ rest, (crowd.run moves).errands[place]? = some rest ∧
          rest.responses = (crowd.told place moves).filterMap (fun output => Errand.responseOf? m output.2) ∧
          (rest.hasEnded = true → bot.RanOnce m (crowd.told place moves) rest.command)) ∧
        ∀ ofCommand ofPassive,
          let crowd' : Workload (World τ) :=
            ⟨crowd.state, crowd.errands.set place ((bot.failing ofCommand ofPassive).errand m)⟩
          (crowd'.told place moves).answers m = (crowd.told place moves).answers m ∧
            (crowd'.run moves).state = (crowd.run moves).state := by
  refine ⟨fun w => ?_, fun crowd place ht => ⟨fun plan hfair => hfair.exists_hasEnded ht, fun moves => ⟨?_, ?_⟩⟩⟩
  · obtain ⟨moves, rest, hturns, hrun, hresponses, hmem⟩ := bot.exists_moves_handle m w
    refine ⟨moves, rest, hturns, hrun, hresponses, fun hnever => ?_⟩
    exact Errand.hasEnded_of_mem_runAll (by simpa using hnever) quiet w rest hmem
  · obtain ⟨rest, hrest, hleaves, htold⟩ := told_of_run ht moves
    exact ⟨rest, hrest, htold, ranOnce_of_leaves hleaves⟩
  · intro ofCommand ofPassive crowd'
    have hechoes : crowd.Echoes crowd' := echoes_set ht (bot.echoes_errand_failing ofCommand ofPassive m)
    exact ⟨hechoes.answers_told ht moves, (hechoes.run moves).state⟩

/-- A command that replies and fails, beside a passive handler that speaks and fails and one that speaks after a pause, all in turn. -/
theorem failing_handlers_do_no_harm_in_turn :
    let fault : Fault := .missingKey "text"
    let go : Command.Registration (Command.Handler (World Milliseconds)) :=
      ⟨⟨"go", "!go", [], false, ['!']⟩, fun _ _ => .respond .reply "gone" (.raise fault)⟩
    let loud : Feature.PassiveHandler (World Milliseconds) := ⟨"loud", fun _ => .respond .say "first" (.raise fault)⟩
    let slow : Feature.PassiveHandler (World Milliseconds) :=
      ⟨"slow", fun _ => .pause .delay (.respond .say "second" (.done ()))⟩
    let bot : Bot Milliseconds := ⟨Settings.standard, ⟨['!'], [go]⟩, [loud, slow]⟩
    let m : Message := ⟨"#lobby", "ana", "!go", [], "console", "m0"⟩
    let w : World Milliseconds :=
      { files := ⟨[]⟩, clock := ⟨0⟩, replies := [], draws := [], shelf := ⟨.ofText "commands.json", [], false⟩,
        lastChatter := none }
    let crowd : Workload (World Milliseconds) := ⟨w, [bot.errand m]⟩
    let plan : ℕ → Move (World Milliseconds) := fun n =>
      .turn 0 Program.everywhere ([.command, .passive 0, .passive 1, .report].getD (n % 4) .report)
    let moves := (List.range 8).map plan
    crowd.errands[0]? = some (bot.errand m) ∧ (bot.errand m).NeverWaits ∧ crowd.Fair plan 0 ∧
      (∃ n rest, (crowd.after plan n).errands[0]? = some rest ∧ rest.hasEnded = true) ∧
      ∃ rest, (crowd.run moves).errands[0]? = some rest ∧ rest.hasEnded = true ∧
        rest.responses.map Response.content = [("gone" : Text), "first", "second"] ∧
        bot.RanOnce m (crowd.told 0 moves) rest.command := by
  intro fault go loud slow bot m w crowd plan moves
  have ht : crowd.errands[0]? = some (bot.errand m) := rfl
  have hnever : (bot.errand m).NeverWaits := by
    refine ⟨trivial, fun i p hp => ?_⟩
    rcases List.mem_pair.mp (List.mem_of_getElem? hp) with rfl | rfl <;> exact trivial
  have hfair : crowd.Fair plan 0 := by
    refine Workload.fair_of_neverWaits ht hnever fun turn hturn n => ?_
    have hcycle : ∀ i < 4, plan (4 * n + i) =
        .turn 0 Program.everywhere ([.command, .passive 0, .passive 1, .report].getD i .report) := by
      intro i hi
      have hmod : (4 * n + i) % 4 = i := by omega
      exact congrArg (fun i => Move.turn 0 Program.everywhere ([.command, .passive 0, .passive 1, .report].getD i .report)) hmod
    have hlisted : turn ∈ [Turn.command, .passive 0, .passive 1, .report] := hturn
    obtain ⟨i, hi, rfl⟩ := List.mem_iff_getElem.mp hlisted
    have hplan := hcycle i hi
    rw [List.getD_eq_getElem?_getD, List.getElem?_eq_getElem hi, Option.getD_some] at hplan
    exact ⟨4 * n + i, by omega, Program.everywhere, hplan⟩
  obtain ⟨-, hcrowd⟩ := failing_handlers_do_no_harm bot m
  obtain ⟨hends, hmoves⟩ := hcrowd crowd 0 ht
  obtain ⟨⟨rest, hrest, -, hran⟩, -⟩ := hmoves moves
  have hended : (crowd.run moves).errands[0]?.map Errand.hasEnded = some true := by decide +kernel
  have hcontents : (crowd.run moves).errands[0]?.map (fun t => t.responses.map Response.content) =
      some [("gone" : Text), "first", "second"] := by decide +kernel
  rw [hrest, Option.map_some] at hended hcontents
  have hover := Option.some.inj hended
  exact ⟨ht, hnever, hfair, hends plan hfair, rest, hrest, hover, Option.some.inj hcontents, hran hover⟩

end ChatBot.Bot
