import ChatBot.Proofs.Bot.Registrations
import ChatBot.Proofs.Command.Call
import ChatBot.Proofs.Command.Invocation
import ChatBot.Proofs.Feature.Faults

/-!
Commands that need an argument. A line that is read binds the first slot that must be filled, so the handlers of custom responses
and of crates always find the argument they begin with: none of them ever fails for a missing key.
-/
set_option autoImplicit false

namespace ChatBot.Bot
open Command Feature
variable {τ : Type}

/-- The commands that look at their first argument before anything else. -/
def needingArgument : List Text := ["set", "add", "edit", "remove", "crate", "crates", "lookup"]

theorem operation_or_lookup [Instant τ] {settings : Settings} {started : τ} {c : Registration (Handler (World τ))}
    (h : c ∈ (fullRegistry settings started).registrations) (hname : c.schema.name ∈ needingArgument) :
    (∃ usage op, c = operation settings usage op) ∨ ∃ usage name, c = lookup settings usage name := by
  simp only [fullRegistry, commandsBeforeHelp, List.cons_append, List.nil_append, List.mem_cons, List.not_mem_nil,
    or_false] at h
  rcases h with rfl | rfl | rfl | rfl | rfl | rfl | rfl | rfl | rfl | rfl
  · exact .inr ⟨_, _, rfl⟩
  · exact .inr ⟨_, _, rfl⟩
  · exact .inr ⟨_, _, rfl⟩
  · exact .inl ⟨_, _, rfl⟩
  · exact .inl ⟨_, _, rfl⟩
  · exact .inl ⟨_, _, rfl⟩
  · exact .inl ⟨_, _, rfl⟩
  · exact absurd hname (by change "speak".toList ∉ needingArgument; decide)
  · exact absurd hname (by change "uptime".toList ∉ needingArgument; decide)
  · exact absurd hname (by change "help".toList ∉ needingArgument; decide)

/-- A command that has a slot to be filled reads no line without binding its first slot, to a word in whose front there is no
blank. So whatever message calls one of the commands that begin with their argument, and whatever is in the world meanwhile, the
handler never fails for a missing key. -/
theorem first_argument_is_there [Instant τ] (settings : Settings) (started : τ) :
    (∀ (leader usage : Text) (elevated : Bool) (s : Schema), Schema.ofUsage leader usage elevated = .ok s →
      (∃ slot ∈ s.slots, slot.kind = .required) →
      ∀ line bindings, s.extract line = .matched bindings → s.BindsFirst bindings) ∧
    ∃ bot, full settings started = .ok bot ∧ ∀ m s bindings handler, bot.registry.route m = .call s bindings handler →
      s.name ∈ needingArgument →
      s.BindsFirst bindings ∧
        (handler ⟨s, bindings⟩ m).FailsOnly fun fault => ∀ key, fault.cause ≠ .missingKey key := by
  refine ⟨fun leader usage elevated s hs hrequired line bindings => bindsFirst_of_extract hs hrequired, _,
    full_eq_ok settings started, fun m s bindings handler hroute hname => ?_⟩
  obtain ⟨-, hextract, c, hc, rfl, rfl, -⟩ := Registry.exists_of_route_eq_call hroute
  obtain ⟨usage, elevated, hs⟩ := (wellFormed_fullRegistry settings started).declared c.schema (List.mem_map_of_mem hc)
  have hbinds (slot : Slot) (hslot : c.schema.slots.head? = some slot) (hkind : slot.kind = .required) :
      c.schema.BindsFirst bindings :=
    bindsFirst_of_extract hs ⟨slot, List.mem_of_head? hslot, hkind⟩ hextract
  rcases operation_or_lookup hc hname with ⟨usage', op, rfl⟩ | ⟨usage', name, rfl⟩
  · have hslot : op.slots.head? = some ⟨"command", .required⟩ := by cases op <;> rfl
    have hfirst := hbinds _ hslot rfl
    have hgiven : (Arguments.get? ⟨(operation settings usage' op : Registration (Handler (World τ))).schema, bindings⟩
        "command").isSome = true := hfirst.isSome_find? hslot
    refine ⟨hfirst, (CustomResponses.handler_failsOnly op hgiven m).mono ?_⟩
    intro fault hfault key hkey
    cases hfault <;> cases hkey
  · have hslot : (lookup settings usage' name : Registration (Handler (World τ))).schema.slots.head? =
        some ⟨"crate", .required⟩ := rfl
    have hfirst := hbinds _ hslot rfl
    have hgiven : (Arguments.get? ⟨(lookup settings usage' name : Registration (Handler (World τ))).schema, bindings⟩
        "crate").isSome = true := hfirst.isSome_find? hslot
    refine ⟨hfirst, (Crates.handle_failsOnly settings hgiven m).mono fun fault hfault key hkey => ?_⟩
    rw [Crates.isAnswered, hkey] at hfault
    cases hfault

/-- A slot is passed over by a doubled space on the line that is read. -/
theorem first_argument_is_there_of_doubled_space :
    let usage : Text := "!pick <first> <second> <rest...>"
    let slots : List Slot := [⟨"first", .required⟩, ⟨"second", .required⟩, ⟨"rest", .flexible⟩]
    let s : Schema := ⟨"pick", usage, slots, false, ['!']⟩
    let bindings : Bindings := [("first", "a"), ("rest", "b ")]
    let m : Message := ⟨"#lobby", "mod", "!set  hi  x", ["moderator"], "console", "m0"⟩
    Schema.ofUsage ['!'] usage false = .ok s ∧ (∃ slot ∈ s.slots, slot.kind = .required) ∧
      s.extract "!pick \t a  b " = .matched bindings ∧ s.BindsFirst bindings ∧
      ∃ (bot : Bot Milliseconds) (s : Schema) (handler : Handler (World Milliseconds)),
        full Settings.standard ⟨0⟩ = .ok bot ∧
        bot.registry.route m = .call s [("command", "hi"), ("body", " x")] handler ∧ s.name ∈ needingArgument ∧
        (handler ⟨s, [("command", "hi"), ("body", " x")]⟩ m).FailsOnly fun fault => ∀ key, fault.cause ≠ .missingKey key := by
  intro usage slots s bindings m
  have hs : Schema.ofUsage ['!'] usage false = .ok s := by decide
  have hrequired : ∃ slot ∈ s.slots, slot.kind = .required := ⟨⟨"first", .required⟩, by decide, rfl⟩
  have hread : s.extract "!pick \t a  b " = .matched bindings := by decide
  obtain ⟨hreads, bot, hfull, hcalls⟩ := first_argument_is_there Settings.standard (⟨0⟩ : Milliseconds)
  have hbot := hfull
  rw [full_eq_ok] at hbot
  obtain rfl := Except.ok.inj hbot
  have hroute : (fullRegistry Settings.standard (⟨0⟩ : Milliseconds)).route m =
      .call (operation Settings.standard "set <command> <body...>" .set : Registration (Handler (World Milliseconds))).schema
        [("command", "hi"), ("body", " x")] CustomResponses.setHandler := by rfl
  exact ⟨hs, hrequired, hread, hreads _ usage false s hs hrequired _ bindings hread, _, _, _, hfull, hroute, by decide,
    (hcalls m _ _ _ hroute (by decide)).2⟩

end ChatBot.Bot
