import ChatBot.Channel.Console
import ChatBot.Proofs.Channel.Delivery
import ChatBot.Proofs.Text.Trim

/-!
A session at the console. It reads one line after the other until one says to quit or the input ends, and each line is handled before
the next is read, so that a session does what the bot does with the typed messages one after the other.
-/
set_option autoImplicit false

/-! ## One message after the other -/

namespace ChatBot.Bot
variable {τ : Type}

/-- The responses and the records that come of each message, and the world in the end. -/
def handleEach (bot : Bot τ) : List Message → World τ → List (List Response × List Record) × World τ
  | [], w => ([], w)
  | m :: messages, w =>
    let (responses, w, records) := bot.handle m w
    let (handled, w) := bot.handleEach messages w
    ((responses, records) :: handled, w)

end ChatBot.Bot

namespace ChatBot.Channel.Console
variable {τ : Type} {answering : Answering τ} {bus : Bus Receiver} {config : ConsoleConfig}

/-! ## Lines -/

def quits (line : Text) : Bool := quitWords.contains (Text.lower (Text.trim line))

/-- What is typed in the lines before the first that quits. -/
def typed (lines : List Text) : List Text :=
  ((lines.takeWhile (! quits ·)).filter (! Text.isBlankText ·)).map (Text.dropWhileEnd isLineEnd)

theorem isBlank_of_isLineEnd {c : Char} (h : isLineEnd c = true) : Text.isBlank c = true := by
  have hcases : c = '\r' ∨ c = '\n' := by simpa [isLineEnd] using h
  rcases hcases with rfl | rfl <;> decide

theorem ofText_eq (line : Text) :
    Line.ofText line =
      if quits line then .quit
      else if Text.isBlankText line then .blank
      else .message (Text.dropWhileEnd isLineEnd line) := by
  have htrim : Text.trim (Text.dropWhileEnd isLineEnd line) = Text.trim line :=
    Text.trim_dropWhileEnd (fun _ => isBlank_of_isLineEnd) line
  rw [Line.ofText, htrim, Text.isEmpty_trim, quits]

theorem ofText_append_lineFeed (line : Text) : Line.ofText (line ++ ['\n']) = Line.ofText line := by
  have hdrop : Text.dropWhileEnd isLineEnd (line ++ ['\n']) = Text.dropWhileEnd isLineEnd line := by
    rw [Text.dropWhileEnd, Text.dropWhileEnd, List.reverse_append, List.reverse_singleton, List.singleton_append,
      List.dropWhile_cons_of_pos rfl]
  rw [Line.ofText, Line.ofText, hdrop]

theorem typed_cons (line : Text) (lines : List Text) :
    typed (line :: lines) = match Line.ofText line with
      | .quit => []
      | .blank => typed lines
      | .message content => content :: typed lines := by
  rw [ofText_eq, typed]
  by_cases hquits : quits line = true
  · simp [hquits]
  · by_cases hblank : Text.isBlankText line = true
    · simp [hquits, hblank, typed]
    · simp [hquits, hblank, typed]

/-- The pieces of an input as lines: nothing behind the last line feed is no line. -/
def complete (pieces : List Text) : List Text := if pieces.getLast? = some [] then pieces.dropLast else pieces

theorem inputLines_eq (input : Text) : inputLines input = complete (List.splitOn '\n' input) := by
  rw [inputLines, Text.splitOn_eq_list_splitOn, complete]

theorem complete_cons {piece : Text} {pieces : List Text} (h : piece ≠ [] ∨ pieces ≠ []) :
    complete (piece :: pieces) = piece :: complete pieces := by
  cases pieces with
  | nil =>
    have hpiece : piece ≠ [] := h.resolve_right (· rfl)
    simp [complete, hpiece]
  | cons piece' pieces =>
    rw [complete, complete, List.getLast?_cons_cons, List.dropLast_cons_of_ne_nil (List.cons_ne_nil _ _)]
    split <;> rfl

theorem typed_complete (pieces : List Text) : typed (complete pieces) = typed pieces := by
  induction pieces with
  | nil => rfl
  | cons piece pieces ih =>
    by_cases h : piece ≠ [] ∨ pieces ≠ []
    · rw [complete_cons h, typed_cons, typed_cons, ih]
    · obtain ⟨rfl, rfl⟩ := not_or.mp h |>.imp not_not.mp not_not.mp
      rfl

/-! ## Listening -/

/-- Typed messages arrive one after the other. -/
def publishEach (answering : Answering τ) (bus : Bus Receiver) (config : ConsoleConfig) (contents : List Text) (t : Talk τ) :
    Talk τ := contents.foldl (Talk.arrive answering bus config) t

theorem listen_eq_publishEach (lines : List Text) (t : Talk τ) :
    listen answering bus config lines t = publishEach answering bus config (typed lines) t := by
  induction lines generalizing t with
  | nil => rfl
  | cons line lines ih =>
    rw [listen, hear, typed_cons]
    cases Line.ofText line with
    | quit => rfl
    | blank => exact ih t
    | message content => exact ih _

/-! ## Reading -/

/-- A line with its line feed, and what is left of an input; the line is empty where nothing is left. -/
def readLine : Text → Text × Text
  | [] => ([], [])
  | c :: input => if c = '\n' then ([c], input) else (c :: (readLine input).1, (readLine input).2)

/-- A session between two lines. -/
structure Reader (τ : Type) where
  unread : Text
  running : Bool
  talk : Talk τ

namespace Reader

/-- Reads a line and handles it, as long as the session runs. -/
def step (answering : Answering τ) (bus : Bus Receiver) (config : ConsoleConfig) (r : Reader τ) : Reader τ :=
  if r.running then
    let (line, unread) := readLine r.unread
    if line.isEmpty then { r with running := false }
    else match hear answering bus config line r.talk with
      | none => { r with unread, running := false }
      | some talk => { r with unread, talk }
  else r

def run (answering : Answering τ) (bus : Bus Receiver) (config : ConsoleConfig) : ℕ → Reader τ → Reader τ
  | 0, r => r
  | n + 1, r => run answering bus config n (r.step answering bus config)

theorem run_of_not_running {r : Reader τ} (h : r.running = false) (n : ℕ) : r.run answering bus config n = r := by
  induction n with
  | zero => rfl
  | succ n ih => rw [run, step, h, if_neg Bool.false_ne_true, ih]

end Reader

theorem readLine_append {piece : Text} (h : '\n' ∉ piece) (rest : Text) :
    readLine (piece ++ '\n' :: rest) = (piece ++ ['\n'], rest) := by
  induction piece with
  | nil => rfl
  | cons c piece ih =>
    have hc : c ≠ '\n' := (List.ne_of_not_mem_cons h).symm
    rw [List.cons_append, readLine, if_neg hc, ih (List.not_mem_of_not_mem_cons h)]
    rfl

theorem readLine_of_not_mem {piece : Text} (h : '\n' ∉ piece) : readLine piece = (piece, []) := by
  induction piece with
  | nil => rfl
  | cons c piece ih =>
    have hc : c ≠ '\n' := (List.ne_of_not_mem_cons h).symm
    rw [readLine, if_neg hc, ih (List.not_mem_of_not_mem_cons h)]

/-- What is read first means what the first piece means, and the other pieces are left. -/
theorem readLine_intercalate {piece : Text} (h : '\n' ∉ piece) (pieces : List Text) :
    ∃ line, readLine (['\n'].intercalate (piece :: pieces)) = (line, ['\n'].intercalate pieces) ∧
      Line.ofText line = Line.ofText piece ∧ (piece ≠ [] ∨ pieces ≠ [] → line ≠ []) := by
  cases pieces with
  | nil =>
    have hread : readLine (['\n'].intercalate [piece]) = (piece, ['\n'].intercalate []) := by
      rw [List.intercalate_singleton, readLine_of_not_mem h]
      rfl
    exact ⟨piece, hread, rfl, fun hsome => hsome.resolve_right (· rfl)⟩
  | cons piece' pieces =>
    have hread := readLine_append h (['\n'].intercalate (piece' :: pieces))
    have hjoined : ['\n'].intercalate (piece :: piece' :: pieces) = piece ++ '\n' :: ['\n'].intercalate (piece' :: pieces) := by
      rw [List.intercalate_cons_cons, List.append_assoc]
      rfl
    rw [hjoined]
    exact ⟨piece ++ ['\n'], hread, ofText_append_lineFeed piece, fun _ => by simp⟩

theorem hear_congr {line line' : Text} (h : Line.ofText line = Line.ofText line') (t : Talk τ) :
    hear answering bus config line t = hear answering bus config line' t := by
  rw [hear, hear, h]

theorem hear_of_quits {line : Text} (h : quits line = true) (t : Talk τ) : hear answering bus config line t = none := by
  rw [hear, ofText_eq, if_pos h]

theorem exists_hear_of_not_quits {line : Text} (h : quits line = false) (t : Talk τ) :
    ∃ t', hear answering bus config line t = some t' := by
  rw [hear, ofText_eq, h, if_neg Bool.false_ne_true]
  by_cases hblank : Text.isBlankText line = true
  · rw [if_pos hblank]
    exact ⟨t, rfl⟩
  · rw [if_neg hblank]
    exact ⟨_, rfl⟩

/-- How many lines come before one that quits or the end of the input. -/
def extent (pieces : List Text) : ℕ := ((complete pieces).takeWhile (! quits ·)).length

theorem extent_cons_of_quits {piece : Text} {pieces : List Text} (hsome : piece ≠ [] ∨ pieces ≠ []) (h : quits piece = true) :
    extent (piece :: pieces) = 0 := by
  rw [extent, complete_cons hsome, List.takeWhile_cons_of_neg (by simp [h])]
  rfl

theorem extent_cons_of_not_quits {piece : Text} {pieces : List Text} (hsome : piece ≠ [] ∨ pieces ≠ [])
    (h : quits piece = false) : extent (piece :: pieces) = extent pieces + 1 := by
  rw [extent, complete_cons hsome, List.takeWhile_cons_of_pos (by simp [h])]
  rfl

theorem typed_take_of_extent_lt {pieces : List Text} {n : ℕ} (h : extent pieces < n) : typed (pieces.take n) = typed pieces := by
  induction pieces generalizing n with
  | nil => rw [List.take_nil]
  | cons piece pieces ih =>
    obtain ⟨n, rfl⟩ := Nat.exists_eq_add_of_lt (Nat.zero_lt_of_lt h)
    rw [Nat.zero_add] at h ⊢
    rw [List.take_succ_cons, typed_cons, typed_cons]
    by_cases hsome : piece ≠ [] ∨ pieces ≠ []
    · cases hquits : quits piece with
      | true => rw [ofText_eq, if_pos hquits]
      | false =>
        rw [extent_cons_of_not_quits hsome hquits] at h
        rw [ih (Nat.lt_of_succ_lt_succ h)]
    · obtain ⟨rfl, rfl⟩ := not_or.mp hsome |>.imp not_not.mp not_not.mp
      rw [List.take_nil]

namespace Reader

theorem step_of_line {unread line rest : Text} (hread : readLine unread = (line, rest)) (hline : line ≠ []) (t : Talk τ) :
    step answering bus config ⟨unread, true, t⟩ = match hear answering bus config line t with
      | none => ⟨rest, false, t⟩
      | some t => ⟨rest, true, t⟩ := by
  have hnonempty : line.isEmpty = false := List.isEmpty_eq_false_iff.mpr hline
  rw [step, if_pos rfl, hread]
  dsimp only
  rw [hnonempty, if_neg Bool.false_ne_true]

theorem run_at_end (t : Talk τ) (n : ℕ) : run answering bus config n ⟨[], true, t⟩ = ⟨[], decide (n ≤ 0), t⟩ := by
  cases n with
  | zero => rfl
  | succ n => exact run_of_not_running rfl n

/-- After any number of turns the lines of these turns are handled, in order, and the others are unread; the reader runs on unless the
line that quits, or the end of the input, was among them. -/
theorem run_of_pieces {pieces : List Text} (hpieces : ∀ piece ∈ pieces, '\n' ∉ piece) (t : Talk τ) (n : ℕ) :
    run answering bus config n ⟨['\n'].intercalate pieces, true, t⟩ =
      ⟨['\n'].intercalate (pieces.drop (min n (extent pieces + 1))), decide (n ≤ extent pieces),
        listen answering bus config (pieces.take n) t⟩ := by
  induction pieces generalizing t n with
  | nil =>
    rw [List.drop_nil, List.take_nil]
    exact run_at_end t n
  | cons piece pieces ih =>
    by_cases hsome : piece ≠ [] ∨ pieces ≠ []
    · cases n with
      | zero => simp [run, listen]
      | succ n =>
        obtain ⟨line, hread, hmeaning, hline⟩ := readLine_intercalate (hpieces piece List.mem_cons_self) pieces
        have hrest := fun t => ih (fun p hp => hpieces p (List.mem_cons_of_mem piece hp)) t n
        rw [run, step_of_line hread (hline hsome), List.take_succ_cons, listen, hear_congr hmeaning]
        cases hquits : quits piece with
        | true =>
          -- The line itself is read, but nothing behind it.
          rw [hear_of_quits hquits, extent_cons_of_quits hsome hquits]
          dsimp only
          rw [run_of_not_running rfl]
          simp
        | false =>
          obtain ⟨t', hhear⟩ : ∃ t', hear answering bus config piece t = some t' := exists_hear_of_not_quits hquits t
          rw [hhear, extent_cons_of_not_quits hsome hquits]
          dsimp only
          rw [hrest t']
          simp [Nat.succ_min_succ]
    · -- Only an empty piece is left, behind the last line feed.
      obtain ⟨rfl, rfl⟩ := not_or.mp hsome |>.imp not_not.mp not_not.mp
      have hunread : ∀ k, ['\n'].intercalate (([[]] : List Text).drop k) = [] := by
        intro k
        cases k <;> simp
      have hnothing : listen answering bus config (([[]] : List Text).take n) t = t := by
        cases n with
        | zero => rfl
        | succ n => rw [List.take_succ_cons, List.take_nil, listen_eq_publishEach]; rfl
      rw [hunread, hnothing]
      exact run_at_end t n

end Reader

/-! ## Sessions -/

theorem bus_manager :
    manager.bus = ⟨2, [⟨0, none, .manager⟩], [⟨1, some adapterName, .adapter ⟨adapterName, 0⟩ none⟩]⟩ := rfl

theorem messageReceivers_manager : manager.bus.messageReceivers = [.manager] := rfl

theorem responseReceivers_manager : manager.bus.responseReceivers adapterName = [.adapter ⟨adapterName, 0⟩ none] := by
  decide

theorem responseReceivers_manager_of_ne {source : Text} (h : source ≠ adapterName) :
    manager.bus.responseReceivers source = [] := by
  simp [bus_manager, Bus.responseReceivers, Ne.symm h]

/-- The console takes every response, and others that nobody takes are only recorded. -/
theorem publishAll_manager_ok (responses : List Response) (t : Traffic τ) :
    (Traffic.publishAll manager.bus responses t).1 = .ok () := by
  induction responses generalizing t with
  | nil => rfl
  | cons r responses ih =>
    have honly : ∀ r' ∈ [r], r'.source = r.source := fun r' hr' => by rw [List.mem_singleton.mp hr']
    by_cases hsource : r.source = adapterName
    · have hsent := Traffic.publishAll_of_adapter (hsource ▸ responseReceivers_manager) honly t
      rw [Traffic.publishAll_cons_of_ok hsent]
      exact ih _
    · have hdropped := Traffic.publishAll_of_nobody (responseReceivers_manager_of_ne hsource) honly t
      rw [Traffic.publishAll_cons_of_ok hdropped]
      exact ih _

theorem arrive_ok (answering : Answering τ) (m : Message) (t : Traffic τ) :
    (Traffic.arrive answering manager.bus m t).1 = .ok () := by
  have hprocess : (Traffic.process answering manager.bus m t).1 = .ok () := by
    rw [Traffic.process]
    rcases answering m t.world with ⟨fault | responses, w, records⟩
    · rfl
    · exact publishAll_manager_ok responses _
  rw [Traffic.arrive, Bus.publishMessage_asSubscribed, messageReceivers_manager, Bus.deliver]
  rcases hresult : Traffic.process answering manager.bus m t with ⟨fault | _, t'⟩
  · rw [hresult] at hprocess
    cases hprocess
  · rfl

/-- What happens at the handling of a message: its records are made, and its responses are sent by the console. -/
def account (handled : List Response × List Record) : List Event :=
  handled.2.map Event.recorded ++ handled.1.map (Event.sent ⟨adapterName, 0⟩)

theorem arrive_message (bot : Bot τ) (id content : Text) (t : Traffic τ) :
    Traffic.arrive bot.answering manager.bus (message config id content) t =
      (.ok (), ⟨(bot.handle (message config id content) t.world).2.1, config.channel, t.events ++
        account ((bot.handle (message config id content) t.world).1, (bot.handle (message config id content) t.world).2.2)⟩) := by
  have hsource : ∀ r ∈ (bot.handle (message config id content) t.world).1, r.source = adapterName := fun r hr =>
    (Bot.belongs_of_mem_handle hr).source
  rw [Traffic.arrive_of_manager messageReceivers_manager, Traffic.publishAll_of_adapter responseReceivers_manager hsource,
    List.append_assoc, account, message]

/-- The messages of what is typed, each under its own id. -/
def asMessages (config : ConsoleConfig) (ids : ℕ → Text) (contents : List Text) : List Message :=
  contents.mapIdx fun i content => message config (ids i) content

theorem asMessages_cons (config : ConsoleConfig) (ids : ℕ → Text) (content : Text) (contents : List Text) :
    asMessages config ids (content :: contents) =
      message config (ids 0) content :: asMessages config (fun n => ids (n + 1)) contents := List.mapIdx_cons

theorem asMessages_eq_nil_iff {ids : ℕ → Text} {contents : List Text} : asMessages config ids contents = [] ↔ contents = [] :=
  List.mapIdx_eq_nil_iff

theorem publishEach_eq_handleEach (bot : Bot τ) (contents : List Text) (t : Talk τ) :
    (publishEach bot.answering manager.bus config contents t).traffic =
      ⟨(bot.handleEach (asMessages config t.ids contents) t.traffic.world).2,
        if contents.isEmpty then t.traffic.bound else config.channel,
        t.traffic.events ++ (bot.handleEach (asMessages config t.ids contents) t.traffic.world).1.flatMap account⟩ := by
  rw [publishEach]
  induction contents generalizing t with
  | nil => simp [asMessages, Bot.handleEach]
  | cons content contents ih =>
    rw [List.foldl_cons, ih, Talk.arrive, arrive_message, asMessages_cons, Bot.handleEach]
    simp [List.append_assoc]

theorem sent_flatMap_account (handled : List (List Response × List Record)) :
    (handled.flatMap account).filterMap Event.response? = (handled.flatMap Prod.fst).map fun r => (⟨adapterName, 0⟩, r) := by
  have hrecords : ∀ records : List Record, (records.map Event.recorded).filterMap Event.response? = [] := by
    intro records
    rw [List.filterMap_map]
    exact List.filterMap_eq_nil_iff.mpr fun _ _ => rfl
  have hresponses : ∀ responses : List Response, (responses.map (Event.sent ⟨adapterName, 0⟩)).filterMap Event.response? =
      responses.map fun r => (⟨adapterName, 0⟩, r) := by
    intro responses
    rw [List.filterMap_map]
    exact congrFun (List.filterMap_eq_map (f := fun r => ((⟨adapterName, 0⟩ : Seat), r))) responses
  induction handled with
  | nil => rfl
  | cons first handled ih =>
    rw [List.flatMap_cons, List.filterMap_append, ih, account, List.filterMap_append, hrecords, hresponses, List.nil_append,
      List.flatMap_cons, List.map_append]

theorem sent_opening (config : ConsoleConfig) (w : World τ) : (opening config w).events.filterMap Event.response? = [] := rfl

theorem session_eq (bot : Bot τ) (config : ConsoleConfig) (ids : ℕ → Text) (input : Text) (w : World τ) :
    session bot config ids (inputLines input) w =
      (publishEach bot.answering manager.bus config (typed (List.splitOn '\n' input)) ⟨ids, opening config w⟩).traffic.note
        stoppedNote := by
  rw [session, listen_eq_publishEach, inputLines_eq, typed_complete]

/-- A session reads the lines up to the first that quits and no further; no message makes it fail. Before it reads the next line, the
messages typed in the lines so far have arrived and all responses to them are sent; in the end the bot has handled the typed messages
one after the other, each in the world that the one before has left. The messages may bear any ids. -/
theorem session_handles_each (bot : Bot τ) (config : ConsoleConfig) (ids : ℕ → Text) (input : Text) (w : World τ) :
    let pieces := List.splitOn '\n' input
    let handled := bot.handleEach (asMessages config ids (typed pieces)) w
    let ended := session bot config ids (inputLines input) w
    (∀ (answering : Answering τ) (m : Message) (t : Traffic τ), (Traffic.arrive answering manager.bus m t).1 = .ok ()) ∧
    (∀ (answering : Answering τ) (t : Talk τ), ∀ n ≤ extent pieces,
      Reader.run answering manager.bus config n ⟨input, true, t⟩ = ⟨['\n'].intercalate (pieces.drop n), true,
        publishEach answering manager.bus config (typed (pieces.take n)) t⟩) ∧
    (∀ (answering : Answering τ) (t : Talk τ), ∀ n > extent pieces,
      Reader.run answering manager.bus config n ⟨input, true, t⟩ = ⟨['\n'].intercalate (pieces.drop (extent pieces + 1)), false,
        publishEach answering manager.bus config (typed pieces) t⟩) ∧
    ended = (publishEach bot.answering manager.bus config (typed pieces) ⟨ids, opening config w⟩).traffic.note stoppedNote ∧
    ended.world = handled.2 ∧
    ended.events.filterMap Event.response? = (handled.1.flatMap Prod.fst).map fun r => (⟨adapterName, 0⟩, r) := by
  intro pieces handled ended
  have hinput : ['\n'].intercalate pieces = input := List.intercalate_splitOn '\n'
  have hpieces : ∀ piece ∈ pieces, '\n' ∉ piece := fun piece hpiece hmem =>
    (Text.mem_and_ne_of_mem_splitOn hpiece hmem).2 rfl
  have hrun : ∀ (answering : Answering τ) (t : Talk τ) (n : ℕ),
      Reader.run answering manager.bus config n ⟨['\n'].intercalate pieces, true, t⟩ = _ := fun _ => Reader.run_of_pieces hpieces
  have hended : ended =
      (publishEach bot.answering manager.bus config (typed pieces) ⟨ids, opening config w⟩).traffic.note stoppedNote :=
    session_eq bot config ids input w
  refine ⟨arrive_ok, fun answering t n hn => ?_, fun answering t n hn => ?_, hended, ?_, ?_⟩
  · rw [← hinput, hrun, listen_eq_publishEach, Nat.min_eq_left (Nat.le_succ_of_le hn), decide_eq_true hn]
  · rw [← hinput, hrun, listen_eq_publishEach, Nat.min_eq_right hn, decide_eq_false (Nat.not_le.mpr hn),
      typed_take_of_extent_lt hn]
  · rw [hended, publishEach_eq_handleEach]
    rfl
  · rw [hended, publishEach_eq_handleEach, Traffic.note, List.filterMap_append, List.filterMap_append, sent_opening,
      sent_flatMap_account]
    exact List.append_nil _

/-- Blanks stay where they are typed, but line ends do not; a line that says more than to quit is a message. -/
example :
    typed (List.splitOn '\n' "!hi there \r\n  \n!hi\r\r\n Quit\r\n!uptime".toList) = ["!hi there ".toList, "!hi".toList] ∧
      typed (List.splitOn '\n' "exit now\n!hi".toList) = ["exit now".toList, "!hi".toList] := by
  decide +kernel

end ChatBot.Channel.Console
