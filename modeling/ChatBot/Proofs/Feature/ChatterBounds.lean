import ChatBot.Feature.Chatter
import ChatBot.Proofs.Program.Conditions
import ChatBot.Proofs.Text.Pieces

/-!
How much a message can make the chatter do. Whatever it finds in the world from one turn to the next, it asks the service at most once
and speaks at most once; it takes no notice of the bot's own messages, nor of commands that do not mention the bot. A mention never
gives the service a topic, any other message gives it one of its own words.
-/
set_option autoImplicit false

namespace ChatBot.Program

/-! ## Requests and responses -/

/-- What is sent along with a request. -/
def Output.body? : Output → Option Json
  | .note (.request _ body _ _) => some body
  | _ => none

def Output.response? : Output → Option (ResponseKind × Text)
  | .response kind text => some (kind, text)
  | .note _ => none

/-- What is sent along with the requests among what a program did. -/
def asked (outputs : List Output) : List Json := outputs.filterMap Output.body?

/-- The responses among what a program did. -/
def spoken (outputs : List Output) : List (ResponseKind × Text) := outputs.filterMap Output.response?

theorem asked_append (first second : List Output) : asked (first ++ second) = asked first ++ asked second :=
  List.filterMap_append

theorem spoken_append (first second : List Output) : spoken (first ++ second) = spoken first ++ spoken second :=
  List.filterMap_append

theorem asked_response (kind : ResponseKind) (text : Text) : asked [.response kind text] = [] := rfl

theorem spoken_response (kind : ResponseKind) (text : Text) : spoken [.response kind text] = [(kind, text)] := rfl

/-- Neither a request nor a response is among what a program did. -/
def Quiet (outputs : List Output) : Prop := asked outputs = [] ∧ spoken outputs = []

theorem quiet_nil : Quiet [] := ⟨rfl, rfl⟩

theorem Quiet.append {first second : List Output} (hfirst : Quiet first) (hsecond : Quiet second) : Quiet (first ++ second) := by
  rw [Quiet, asked_append, spoken_append, hfirst.1, hfirst.2, hsecond.1, hsecond.2]
  exact quiet_nil

theorem Quiet.asked_append {first : List Output} (h : Quiet first) (second : List Output) :
    asked (first ++ second) = asked second := by
  rw [Program.asked_append, h.1, List.nil_append]

theorem Quiet.spoken_append {first : List Output} (h : Quiet first) (second : List Output) :
    spoken (first ++ second) = spoken second := by
  rw [Program.spoken_append, h.2, List.nil_append]

variable {σ α β : Type}

/-- Neither a request nor a response is made in any run. -/
def KeepsQuiet (p : Program σ α) : Prop := p.Meets fun outputs _ => Quiet outputs

theorem KeepsQuiet.bind {p : Program σ α} {f : α → Program σ β} (hp : p.KeepsQuiet) (hf : ∀ a, (f a).KeepsQuiet) :
    (p >>= f).KeepsQuiet :=
  Meets.bind hp (fun a _ hfirst => (hf a).mono fun _ _ hsecond => hfirst.append hsecond) fun _ _ houtputs => houtputs

theorem keepsQuiet_of_nil {p : Program σ α} (h : p.Meets fun outputs _ => outputs = []) : p.KeepsQuiet :=
  h.mono fun _ _ houtputs => houtputs ▸ quiet_nil

theorem keepsQuiet_pure (a : α) : (pure a : Program σ α).KeepsQuiet :=
  keepsQuiet_of_nil ((meets_pure a).mono fun _ _ => And.left)

theorem keepsQuiet_ofExcept (result : Except Fault α) : (ofExcept result : Program σ α).KeepsQuiet :=
  keepsQuiet_of_nil ((meets_ofExcept result).mono fun _ _ => And.left)

theorem keepsQuiet_update (f : σ → α × σ) : (update f).KeepsQuiet :=
  keepsQuiet_of_nil ((meets_update f).mono fun _ _ => And.left)

theorem keepsQuiet_modify (f : σ → σ) : (modify f).KeepsQuiet :=
  keepsQuiet_of_nil ((meets_modify f).mono fun _ _ => And.left)

theorem keepsQuiet_get : (get : Program σ σ).KeepsQuiet := keepsQuiet_of_nil (meets_get.mono fun _ _ => And.left)

theorem keepsQuiet_yield (p : Pause) : (yield p : Program σ Unit).KeepsQuiet :=
  keepsQuiet_of_nil ((meets_yield p).mono fun _ _ => And.left)

theorem keepsQuiet_record {n : Note} (h : (Output.note n).body? = none) : (record n : Program σ Unit).KeepsQuiet := by
  refine (meets_record n).mono fun outputs _ ⟨houtputs, _⟩ => ?_
  rw [houtputs]
  exact ⟨List.filterMap_cons_none h, rfl⟩

end ChatBot.Program

namespace ChatBot
variable {τ : Type}
open Program

namespace Service

theorem drawWithin_meets {low high : ℕ} (hle : low ≤ high) : (drawWithin low high : Program (World τ) ℕ).Meets
    fun outputs ending => Quiet outputs ∧ ∃ n, low ≤ n ∧ n ≤ high ∧ ending = .ok n := by
  intro outputs ending h
  obtain ⟨w, hdraw⟩ := yields_read_iff.mp h
  obtain ⟨rest, rfl, hdone⟩ := yields_note_iff.mp (yields_write_iff.mp hdraw)
  obtain ⟨rfl, rfl⟩ := yields_done_iff.mp hdone
  have hlt : w.nextDraw.1 % (high - low + 1) < high - low + 1 := Nat.mod_lt _ (Nat.succ_pos _)
  exact ⟨⟨rfl, rfl⟩, _, Nat.le_add_right low _, by omega, rfl⟩

theorem drawThousandths_keepsQuiet : (drawThousandths : Program (World τ) ℕ).KeepsQuiet :=
  (keepsQuiet_update _).bind fun _ => (keepsQuiet_record rfl).bind fun _ => keepsQuiet_pure _

theorem drawChoice_meets (items : List Text) : (drawChoice items : Program (World τ) (Option Text)).Meets
    fun outputs ending => Quiet outputs ∧ ∃ choice, ending = .ok choice ∧ (choice = none ↔ items = []) ∧
      ∀ item, choice = some item → item ∈ items := by
  intro outputs ending h
  rw [drawChoice] at h
  split at h
  · rename_i hempty
    obtain ⟨rfl, rfl⟩ := yields_done_iff.mp h
    exact ⟨quiet_nil, none, rfl, by simpa using hempty, nofun⟩
  · rename_i hsome
    obtain ⟨w, hdraw⟩ := yields_read_iff.mp h
    obtain ⟨rest, rfl, hdone⟩ := yields_note_iff.mp (yields_write_iff.mp hdraw)
    obtain ⟨rfl, rfl⟩ := yields_done_iff.mp hdone
    have hne : items ≠ [] := by simpa using hsome
    have hplace : w.nextDraw.1 % items.length < items.length := Nat.mod_lt _ (List.length_pos_iff.mpr hne)
    refine ⟨⟨rfl, rfl⟩, _, rfl, ?_, fun item hitem => List.mem_of_getElem? hitem⟩
    rw [List.getElem?_eq_getElem hplace]
    simp [hne]

theorem readClock_keepsQuiet [Instant τ] : (readClock : Program (World τ) τ).KeepsQuiet :=
  (keepsQuiet_update _).bind fun _ => (keepsQuiet_ofExcept _).bind fun _ => keepsQuiet_pure _

theorem noticeChatter_keepsQuiet [Instant τ] : (noticeChatter : Program (World τ) Unit).KeepsQuiet :=
  readClock_keepsQuiet.bind fun _ => keepsQuiet_modify _

/-- A request is made first, and nothing else is. -/
theorem getJson_meets (url : Text) (body : Json) (timeout : Scalar) : (getJson url body timeout : Program (World τ) Json).Meets
    fun outputs _ => asked outputs = [body] ∧ spoken outputs = [] := by
  refine (meets_record _).bind (fun _ first ⟨hfirst, _⟩ => ?_) fun _ _ ⟨_, hending⟩ => nomatch hending
  have hlater : (do
      Program.yield .request
      let document ← Program.update (nextDocument url)
      (Program.ofExcept document).during .request : Program (World τ) Json).KeepsQuiet :=
    (keepsQuiet_yield _).bind fun _ => (keepsQuiet_update _).bind fun _ => (keepsQuiet_ofExcept _).outputs_during _
  refine hlater.mono fun second _ hsecond => ?_
  rw [hfirst, asked_append, spoken_append, hsecond.1, hsecond.2]
  exact ⟨rfl, rfl⟩

end Service

namespace Feature.Chatter
variable (settings : Settings) (m : Message)

/-! ## The parts of chatter -/

/-- There is one request, on a topic or on none, and no response. -/
def Asks (topic : Option Text) (outputs : List Output) : Prop :=
  (∃ fewest : ℕ, 1 ≤ fewest ∧ fewest ≤ 3 ∧ asked outputs = [question fewest topic]) ∧ spoken outputs = []

theorem Asks.quiet_append {topic : Option Text} {first second : List Output} (h : Asks topic second) (hfirst : Quiet first) :
    Asks topic (first ++ second) := by
  rw [Asks, hfirst.asked_append, hfirst.spoken_append]
  exact h

theorem Asks.append_quiet {topic : Option Text} {first second : List Output} (h : Asks topic first) (hsecond : Quiet second) :
    Asks topic (first ++ second) := by
  rw [Asks, asked_append, spoken_append, hsecond.1, hsecond.2, List.append_nil, List.append_nil]
  exact h

theorem fetch_meets (topic : Option Text) :
    (fetch settings topic : Program (World τ) Text).Meets fun outputs _ => Asks topic outputs := by
  refine (Service.drawWithin_meets (by decide)).bind ?_ fun _ _ ⟨_, _, _, _, hending⟩ => nomatch hending
  rintro fewest first ⟨hfirst, n, hlow, hhigh, hn⟩
  obtain rfl := Except.ok.inj hn
  have hrequest := (Service.getJson_meets (τ := τ) (address settings) (question fewest topic)
    (.float settings.httpTimeout)).outputs_during .question
  have hasks (outputs : List Output) (h : asked outputs = [question fewest topic] ∧ spoken outputs = []) :
      Asks topic (first ++ outputs) :=
    Asks.quiet_append ⟨⟨fewest, hlow, hhigh, h.1⟩, h.2⟩ hfirst
  refine hrequest.bind (fun answer second hsecond => ?_) fun outputs _ houtputs => hasks outputs houtputs
  refine ((keepsQuiet_ofExcept _).outputs_during _).mono fun third _ hthird => ?_
  rw [← List.append_assoc]
  exact (hasks second hsecond).append_quiet hthird

theorem drawDelay_keepsQuiet : (drawDelay settings : Program (World τ) ℕ).KeepsQuiet := by
  have hdraw (low high : ℕ) : (Service.drawWithin low high : Program (World τ) ℕ).KeepsQuiet :=
    (keepsQuiet_update _).bind fun _ => (keepsQuiet_record rfl).bind fun _ => keepsQuiet_pure _
  rw [drawDelay]
  split
  · exact keepsQuiet_pure _
  · exact (hdraw _ _).bind fun ceiling => hdraw _ ceiling

theorem chooseDelay_keepsQuiet : (chooseDelay settings : Program (World τ) ℕ).KeepsQuiet :=
  (drawDelay_keepsQuiet settings).bind fun _ => (keepsQuiet_ofExcept _).bind fun _ => keepsQuiet_pure _

/-- A topic is one of the words that may be one; there is none only where no word may. -/
def Suits (text : Text) (topic : Option Text) : Prop :=
  (topic = none ↔ (Text.words text).filter isTopic = []) ∧ ∀ word, topic = some word → word ∈ (Text.words text).filter isTopic

variable [Instant τ]

theorem claim_keepsQuiet : (claim settings : Program (World τ) Bool).KeepsQuiet := by
  refine keepsQuiet_get.bind fun w => ?_
  cases w.lastChatter with
  | none => exact Service.noticeChatter_keepsQuiet.bind fun _ => keepsQuiet_pure _
  | some last =>
    refine Service.readClock_keepsQuiet.bind fun now => ?_
    split
    · exact keepsQuiet_pure _
    · refine Service.drawThousandths_keepsQuiet.bind fun n => ?_
      split
      · exact keepsQuiet_pure _
      · exact Service.noticeChatter_keepsQuiet.bind fun _ => keepsQuiet_pure _

/-- A remark on a text is made up without saying anything yet, with at most one request, on a topic from the text. -/
theorem generate_meets (text : Text) : (generate settings text : Program (World τ) (Option Text)).Meets
    fun outputs _ => Quiet outputs ∨ ∃ topic, Suits text topic ∧ Asks topic outputs := by
  refine Meets.bind (claim_keepsQuiet settings) (fun claimed first hfirst => ?_) fun _ _ houtputs => .inl houtputs
  cases claimed with
  | false => exact (keepsQuiet_pure none).mono fun _ _ hsecond => .inl (hfirst.append hsecond)
  | true =>
    rw [if_pos rfl]
    refine (Service.drawChoice_meets _).bind ?_ fun _ _ ⟨_, _, hending, _⟩ => nomatch hending
    rintro topic second ⟨hsecond, _, htopic, hsuits⟩
    obtain rfl := Except.ok.inj htopic
    have hbefore := hfirst.append hsecond
    refine ((fetch_meets settings topic).outputs_during .chatter).bind (fun text third hthird => ?_) fun third _ hthird => ?_
    · -- Once the text is there, nothing more is asked, and it is left to the caller to say it.
      have hlater : (do
          let milliseconds ← chooseDelay settings
          Program.record (.delay milliseconds)
          Program.yield .delay
          Service.noticeChatter
          Program.record (.debug ("speak.generated response=" ++ Text.quote (dress text)))
          return some (dress text) : Program (World τ) (Option Text)).KeepsQuiet :=
        (chooseDelay_keepsQuiet settings).bind fun _ => (keepsQuiet_record rfl).bind fun _ => (keepsQuiet_yield _).bind fun _ =>
          Service.noticeChatter_keepsQuiet.bind fun _ => (keepsQuiet_record rfl).bind fun _ => keepsQuiet_pure _
      refine hlater.mono fun fourth _ hfourth => .inr ⟨topic, hsuits, ?_⟩
      rw [← List.append_assoc]
      exact (hthird.append_quiet hfourth).quiet_append hbefore
    · rw [← List.append_assoc]
      exact .inr ⟨topic, hsuits, hthird.quiet_append hbefore⟩

/-! ## Messages -/

/-- Whether a word of a message may be given to the service. -/
def MayBeTopic (word : Text) : Prop :=
  word ∈ Text.words m.content ∧ ∀ lead ∈ (["http", "!", "."] : List Text), ¬ lead <+: word

/-- Whether chatter takes no notice of a message: the bot's own, or a command that does not mention the bot. -/
def Ignores : Prop :=
  m.sender = settings.identity ∨ m.mentions settings.identity = false ∧ [settings.leader] <+: m.content

/-- What may be sent to the service about a message. -/
def AsksAbout (body : Json) : Prop :=
  ∃ (fewest : ℕ) (context : Json), 1 ≤ fewest ∧ fewest ≤ 3 ∧
    body = .object [("min", .int fewest), ("max", .int 45), ("context", context)] ∧
    (context = .null ∨ ∃ word, MayBeTopic m word ∧ context = .string word) ∧
    (m.mentions settings.identity = true → context = .null) ∧
    (m.mentions settings.identity = false → (context = .null ↔ ∀ word, ¬ MayBeTopic m word))

/-- One request at most and one response at most, both as they may be. -/
structure Restrained (outputs : List Output) : Prop where
  asks_once : (asked outputs).length ≤ 1
  speaks_once : (spoken outputs).length ≤ 1
  kind : ∀ response ∈ spoken outputs, response.1 = .say
  asks_about : ∀ body ∈ asked outputs, AsksAbout settings m body

variable {settings m}

theorem Restrained.of_prefix {begun outputs : List Output} (h : Restrained settings m outputs) (hbegun : begun <+: outputs) :
    Restrained settings m begun where
  asks_once := Nat.le_trans (hbegun.filterMap Output.body?).length_le h.asks_once
  speaks_once := Nat.le_trans (hbegun.filterMap Output.response?).length_le h.speaks_once
  kind response hresponse := h.kind response ((hbegun.filterMap Output.response?).subset hresponse)
  asks_about body hbody := h.asks_about body ((hbegun.filterMap Output.body?).subset hbody)

theorem restrained_of_quiet {outputs : List Output} (h : Quiet outputs) : Restrained settings m outputs where
  asks_once := by simp [h.1]
  speaks_once := by simp [h.2]
  kind := by simp [h.2]
  asks_about := by simp [h.1]

/-- After the request, something may be said. -/
theorem Asks.restrained {topic : Option Text} {outputs : List Output} (h : Asks topic outputs)
    (hquestion : ∀ fewest, 1 ≤ fewest → fewest ≤ 3 → AsksAbout settings m (question fewest topic)) :
    Restrained settings m outputs := by
  obtain ⟨⟨fewest, hlow, hhigh, hasked⟩, hspoken⟩ := h
  exact ⟨by simp [hasked], by simp [hspoken], by simp [hspoken], by simpa [hasked] using hquestion fewest hlow hhigh⟩

theorem Restrained.say {outputs : List Output} (h : Restrained settings m outputs) (hspoken : spoken outputs = [])
    (text : Text) : Restrained settings m (outputs ++ [.response .say text]) := by
  have hasked : asked (outputs ++ [.response .say text]) = asked outputs := by
    rw [asked_append, asked_response, List.append_nil]
  have hsaid : spoken (outputs ++ [.response .say text]) = [(.say, text)] := by
    rw [spoken_append, spoken_response, hspoken, List.nil_append]
  exact ⟨hasked ▸ h.asks_once, by simp [hsaid], by simp [hsaid], hasked ▸ h.asks_about⟩

variable (settings m)

theorem mem_topics_iff {word : Text} : word ∈ (Text.words m.content).filter isTopic ↔ MayBeTopic m word := by
  simp [MayBeTopic, isTopic, ← Text.startsWith_iff, and_assoc]

theorem asksAbout_of_mention (hmention : m.mentions settings.identity = true) {fewest : ℕ} (hlow : 1 ≤ fewest)
    (hhigh : fewest ≤ 3) : AsksAbout settings m (question fewest none) :=
  ⟨fewest, .null, hlow, hhigh, rfl, .inl rfl, fun _ => rfl, fun hother => by simp [hmention] at hother⟩

theorem asksAbout_of_suits (hother : m.mentions settings.identity = false) {topic : Option Text} (htopic : Suits m.content topic)
    {fewest : ℕ} (hlow : 1 ≤ fewest) (hhigh : fewest ≤ 3) : AsksAbout settings m (question fewest topic) := by
  refine ⟨fewest, _, hlow, hhigh, rfl, ?_, fun hmention => by simp [hother] at hmention, fun _ => ?_⟩
  · cases topic with
    | none => exact .inl rfl
    | some word => exact .inr ⟨word, (mem_topics_iff m).mp (htopic.2 word rfl), rfl⟩
  · have hnone : (topic.map Json.string).getD .null = .null ↔ topic = none := by cases topic <;> simp
    rw [hnone, htopic.1, List.eq_nil_iff_forall_not_mem]
    exact forall_congr' fun word => not_congr (mem_topics_iff m)

/-- What is not ignored is answered as a mention, or as a remark on one of its words. -/
theorem listen_meets : (listen settings m : Program (World τ) Unit).Meets fun outputs _ => Restrained settings m outputs := by
  have hquiet : (pure () : Program (World τ) Unit).Meets fun outputs _ => Restrained settings m outputs :=
    (keepsQuiet_pure ()).mono fun _ _ => restrained_of_quiet
  rw [listen]
  split
  · exact hquiet
  split
  · rename_i hmention
    have hfetch := (fetch_meets (τ := τ) settings none).outputs_during .answerToMention
    refine hfetch.bind (fun text first hfirst => ?_) fun _ _ houtputs =>
      houtputs.restrained fun _ => asksAbout_of_mention settings m hmention
    refine (meets_respond _ _).mono fun second _ ⟨hsecond, _⟩ => ?_
    rw [hsecond]
    exact (hfirst.restrained fun _ => asksAbout_of_mention settings m hmention).say hfirst.2 _
  · rename_i hmention
    have hother : m.mentions settings.identity = false := by simpa using hmention
    split
    · exact hquiet
    have hremark (outputs : List Output) (h : Quiet outputs ∨ ∃ topic, Suits m.content topic ∧ Asks topic outputs) :
        Restrained settings m outputs ∧ spoken outputs = [] := by
      rcases h with hnothing | ⟨topic, hsuits, hasks⟩
      · exact ⟨restrained_of_quiet hnothing, hnothing.2⟩
      · exact ⟨hasks.restrained fun _ => asksAbout_of_suits settings m hother hsuits, hasks.2⟩
    refine ((generate_meets settings m.content).outputs_during .remark).bind (fun remark first hfirst => ?_) fun outputs _ h =>
      (hremark outputs h).1
    obtain ⟨hrestrained, hspoken⟩ := hremark first hfirst
    cases remark with
    | none =>
      refine (meets_pure ()).mono fun second _ ⟨hsecond, _⟩ => ?_
      rwa [hsecond, List.append_nil]
    | some text =>
      refine (meets_respond _ _).mono fun second _ ⟨hsecond, _⟩ => ?_
      rw [hsecond]
      exact hrestrained.say hspoken text

theorem listen_of_ignored (h : Ignores settings m) : (listen settings m : Program (World τ) Unit) = .done () := by
  rw [listen]
  split
  · rfl
  · rename_i hsender
    obtain ⟨hother, hcommand⟩ := h.resolve_left hsender
    rw [if_neg (by simp [hother]), if_pos (Text.startsWith_iff.mpr hcommand)]
    rfl

/-- Nothing at all happens about a message that is ignored. About any other there is one request and one response at most, whatever
the world is like in each of the turns, and the request is about nothing or about a word of the message. -/
theorem chatter_is_bounded :
    (Ignores settings m → ∀ (stops : Pause → Bool) (w : World τ), (listen settings m).slice stops w = ⟨[], w, .done ()⟩) ∧
    ∀ turns : List ((Pause → Bool) × World τ), Restrained settings m ((listen settings m).inTurns turns).1 := by
  refine ⟨fun hignored stops w => by rw [listen_of_ignored settings m hignored]; rfl, ?_⟩
  have hbeginnings : (listen settings m : Program (World τ) Unit).Meets fun outputs _ =>
      ∀ begun, begun <+: outputs → Restrained settings m begun :=
    (listen_meets settings m).mono fun outputs _ houtputs begun hbegun => houtputs.of_prefix hbegun
  exact hbeginnings.inTurns (restrained_of_quiet quiet_nil)

/-- A mention is answered with one request; the same words from the bot itself are not. -/
theorem chatter_is_bounded_of_mention :
    let m : Message := ⟨"#lobby", "ana", "well, @shaken_bot?", [], "console", "m0"⟩
    let w : World Milliseconds :=
      { files := .empty, clock := ⟨0⟩, replies := [.answer 200 none "\x7b\"data\": \"hi\"\x7d"], draws := [1],
        shelf := ⟨Storage.FilePath.ofText "store.json", [], false⟩, lastChatter := none }
    let outputs := ((listen Settings.standard m).inTurns [(everywhere, w), (everywhere, w)]).1
    (asked outputs).length = 1 ∧ spoken outputs = [(ResponseKind.say, ("~ hi" : Text))] ∧ Restrained Settings.standard m outputs ∧
      (listen Settings.standard { m with sender := "shaken_bot" }).slice everywhere w = ⟨[], w, .done ()⟩ := by
  intro m w outputs
  exact ⟨by decide +kernel, by decide +kernel, (chatter_is_bounded Settings.standard m).2 _,
    (chatter_is_bounded Settings.standard _).1 (.inl (by decide)) _ w⟩

end Feature.Chatter
end ChatBot
