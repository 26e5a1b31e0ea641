import ChatBot.Proofs.Bot.Operations

/-!
Who changes custom responses. Those without privileges never do, whatever they write and whoever else is at work, so a run of
messages leaves the same files and responses as the part of it that comes from those with privileges.
-/
set_option autoImplicit false

namespace ChatBot.Bot
open Command Feature
variable {τ : Type} [Instant τ]

variable {bot : Bot τ}

/-- Files and shelf after a message depend on nothing but files and shelf before it. -/
theorem IsFull.storage_handle_congr (hbot : bot.IsFull) (m : Message) {w w' : World τ} (h : w.storage = w'.storage) :
    (bot.handle m w).2.1.storage = (bot.handle m w').2.1.storage := by
  rw [(hbot.handle_eq_course m w).2, (hbot.handle_eq_course m w').2]
  rcases hbot.runs_operation_or_keeps m with ⟨s, bindings, op, hroute, -, -⟩ | ⟨-, hkeeps⟩
  · obtain ⟨-, hstorage, -⟩ := course_of_operation w hroute
    obtain ⟨-, hstorage', -⟩ := course_of_operation w' hroute
    rw [hstorage, hstorage', (World.storage_eq_iff.mp h).2.1]
    exact (CustomResponses.Decision.outcome_congr _ m.channel h).2
  · exact (course_of_keeps w hkeeps).2.trans (h.trans (course_of_keeps w' hkeeps).2.symm)

theorem IsFull.dispatch_keeps_of_unprivileged (hbot : bot.IsFull) {m : Message} (h : m.isElevated = false) :
    (∀ s bindings handler, bot.registry.route m = .call s bindings handler →
      ∀ op : CustomResponses.Operation, s.name ≠ op.name) ∧ (bot.registry.dispatch m).Keeps World.storage := by
  rcases hbot.runs_operation_or_keeps m with ⟨_, _, _, _, _, helevated⟩ | hkeeps
  · rw [h] at helevated
    cases helevated
  · exact hkeeps

theorem IsFull.storage_handle_of_unprivileged (hbot : bot.IsFull) {m : Message} (h : m.isElevated = false) (w : World τ) :
    (bot.handle m w).2.1.storage = w.storage := by
  rw [(hbot.handle_eq_course m w).2]
  exact (course_of_keeps w (hbot.dispatch_keeps_of_unprivileged h).2).2

theorem IsFull.storage_after_filter (hbot : bot.IsFull) (arrivals : List (Arrival τ)) {w w' : World τ}
    (h : w.storage = w'.storage) :
    (bot.after (arrivals.filter (·.message.isElevated)) w).storage = (bot.after arrivals w').storage := by
  induction arrivals generalizing w w' with
  | nil => exact h
  | cons a arrivals ih =>
    have hmeets : (a.meets w).storage = (a.meets w').storage := h
    cases helevated : a.message.isElevated with
    | true =>
      rw [List.filter_cons, if_pos helevated, after_cons, after_cons]
      exact ih (hbot.storage_handle_congr a.message hmeets)
    | false =>
      rw [List.filter_cons, if_neg (by simp [helevated]), after_cons]
      exact ih (h.trans (hbot.storage_handle_of_unprivileged helevated (a.meets w')).symm)

/-- Messages of those without privileges can be left out of a run: the same files and responses come of it. Whoever else is at
work while such a message is handled, it calls none of the commands for custom responses, and none of its programs changes files
or shelf. -/
theorem unprivileged_change_no_responses (settings : Settings) (started : τ) :
    ∃ bot, full settings started = .ok bot ∧
      (∀ arrivals w, (bot.after (arrivals.filter (·.message.isElevated)) w).storage = (bot.after arrivals w).storage) ∧
      ∀ m : Message, (∀ badge ∈ m.badges, badge ∉ Message.elevatedBadges) →
        (∀ s bindings handler, bot.registry.route m = .call s bindings handler →
          ∀ op : CustomResponses.Operation, s.name ≠ op.name) ∧
        (bot.registry.dispatch m).Keeps World.storage ∧ ∀ p ∈ bot.passives, (p.handle m).Keeps World.storage := by
  refine ⟨_, full_eq_ok settings started, ?_⟩
  obtain ⟨-, hbot⟩ := isFull_of_full (full_eq_ok settings started)
  refine ⟨fun arrivals w => hbot.storage_after_filter arrivals rfl, fun m hbadges => ?_⟩
  have helevated : m.isElevated = false := by
    rw [Message.isElevated, List.any_eq_false]
    simpa using hbadges
  obtain ⟨hcalls, hkeeps⟩ := hbot.dispatch_keeps_of_unprivileged helevated
  refine ⟨hcalls, hkeeps, fun p hp => ?_⟩
  simp only [CustomResponses.passives, Chatter.passives, List.cons_append, List.nil_append, List.mem_cons, List.not_mem_nil,
    or_false] at hp
  rcases hp with rfl | rfl
  · exact CustomResponses.answer_keeps settings.leader m
  · exact Chatter.listen_keeps settings m

/-- Somebody tries to set a response before a moderator does. -/
theorem unprivileged_change_no_responses_of_attempt :
    let eve : Message := ⟨"#lobby", "eve", "!set hi there", ["subscriber"], "console", "1"⟩
    let mod : Message := ⟨"#lobby", "mod", "!set hi hello", ["moderator"], "console", "2"⟩
    (∀ badge ∈ eve.badges, badge ∉ Message.elevatedBadges) ∧
      ∃ bot : Bot Milliseconds, full Settings.standard ⟨0⟩ = .ok bot ∧ (bot.registry.dispatch eve).Keeps World.storage ∧
        ∀ w, (bot.after [⟨mod, ⟨2⟩⟩] w).storage = (bot.after [⟨eve, ⟨1⟩⟩, ⟨mod, ⟨2⟩⟩] w).storage := by
  intro eve mod
  have hbadges : ∀ badge ∈ eve.badges, badge ∉ Message.elevatedBadges := by decide
  obtain ⟨bot, hfull, hruns, hunprivileged⟩ := unprivileged_change_no_responses Settings.standard (⟨0⟩ : Milliseconds)
  have hfilter : [(⟨eve, ⟨1⟩⟩ : Arrival Milliseconds), ⟨mod, ⟨2⟩⟩].filter (·.message.isElevated) = [⟨mod, ⟨2⟩⟩] := rfl
  exact ⟨hbadges, bot, hfull, (hunprivileged eve hbadges).2.1, fun w => hfilter ▸ hruns [⟨eve, ⟨1⟩⟩, ⟨mod, ⟨2⟩⟩] w⟩

end ChatBot.Bot
