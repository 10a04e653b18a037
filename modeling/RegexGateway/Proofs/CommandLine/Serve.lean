import RegexGateway.CommandLine.Run
import RegexGateway.Proofs.Dialect.Literal
import RegexGateway.Proofs.Engine.Ends
import RegexGateway.Proofs.Json.Inline
import RegexGateway.Proofs.Text.Lines

namespace RegexGateway

namespace Handler

variable {h : Handler}

/-- What becomes of a line: its reply is the response of the handler or, if the handler has none, it
reads as an object with nothing but the reason for that. There is no reply to a request that is
lost. -/
inductive Answers (h : Handler) (line : List Char) : Except Loss String → Prop where
  | response {reply : String} (hhandle : h.handle (String.ofList line) = .ok reply) :
      Answers h line (.ok reply)
  | refusal {reply : String} (e : HandlerError)
      (hhandle : h.handle (String.ofList line) = .error e) (hback : e.loss? = none)
      (hread : Json.Document.ofText reply = ⟨(Json.obj [("error", .str e.message)]).node, false⟩) :
      Answers h line (.ok reply)
  | lost (e : HandlerError) {loss : Loss} (hhandle : h.handle (String.ofList line) = .error e)
      (hloss : e.loss? = some loss) : Answers h line (.error loss)

theorem answers_reply (line : List Char) : h.Answers line (h.reply line) := by
  unfold reply
  split
  · rename_i response hhandle
    exact .response hhandle
  · rename_i e hhandle
    split
    · rename_i hback
      have hreadable : (Json.obj [("error", .str e.message)]).Readable 1 := by
        simp [Json.Readable, Json.ReadableFields]
      exact .refusal e hhandle hback (Json.Document.ofText_compact hreadable (by decide))
    · rename_i loss hloss
      exact .lost e hhandle hloss

theorem handle_eq_ok {text response : String} (hhandle : h.handle text = .ok response) :
    ∃ json : Json, response = json.compact := by
  obtain ⟨request, -, hrequest⟩ := bind_eq_ok.1 hhandle
  obtain ⟨json, -, hjson⟩ := bind_eq_ok.1 hrequest
  exact ⟨json.sorted, (Except.ok.inj hjson).symm⟩

theorem oneLine_reply {line : List Char} {reply : String} (hreply : h.reply line = .ok reply) :
    Text.OneLine reply.toList := by
  have hcompact : ∃ json : Json, reply = json.compact := by
    unfold Handler.reply at hreply
    split at hreply
    · rename_i response hhandle
      obtain rfl := Except.ok.inj hreply
      exact handle_eq_ok hhandle
    · split at hreply
      · exact ⟨_, (Except.ok.inj hreply).symm⟩
      · contradiction
  obtain ⟨json, rfl⟩ := hcompact
  rw [Json.compact, String.toList_ofList]
  exact Json.oneLine_compactChars json

/-- The request on a line runs no pattern that lets a match start anew where it looks behind. -/
def KeepsAhead (h : Handler) (line : List Char) : Prop :=
  ∀ request, RemoteRequest.codec.ofString (String.ofList line) = .ok request →
    ∀ record ∈ request.records, h.runner.KeepsAhead record

theorem loss?_of_keepsAhead (hh : h.dialect = .standard ∨ h.dialect = .fancy) {line : List Char}
    (hline : h.KeepsAhead line) {e : HandlerError}
    (hhandle : h.handle (String.ofList line) = .error e) : e.loss? = none := by
  unfold handle at hhandle
  cases hread : RemoteRequest.codec.ofString (String.ofList line) with
  | error error =>
    rw [hread] at hhandle
    obtain rfl := Except.error.inj hhandle
    rfl
  | ok request =>
    have hback := comesBack_answer hh (hline request hread)
    rw [hread] at hhandle
    cases hanswer : h.answer request with
    | ok json => simp [hanswer, bind, Except.bind, pure, Except.pure] at hhandle
    | error fault =>
      simp only [mapError_ok, hanswer, bind, Except.bind, mapError_error,
        Except.error.injEq] at hhandle
      obtain rfl := hhandle
      exact hback fault hanswer

theorem reply_of_keepsAhead (hh : h.dialect = .standard ∨ h.dialect = .fancy) {line : List Char}
    (hline : h.KeepsAhead line) : ∃ reply, h.reply line = .ok reply := by
  have hanswers := h.answers_reply line
  generalize h.reply line = reply at hanswers
  cases hanswers with
  | response | refusal => exact ⟨_, rfl⟩
  | lost e hhandle hloss => simp [loss?_of_keepsAhead hh hline hhandle] at hloss

end Handler

/-- A loop that serves lines, with the lines that it prints and the loss that it stops at. -/
inductive Serves (reply : List Char → Except Loss String) :
    List (List Char) → Served → Prop where
  | done : Serves reply [] .nothing
  | answered {line : List Char} {answer : String} {rest : List (List Char)} {served : Served}
      (hreply : reply line = .ok answer) (hrest : Serves reply rest served) :
      Serves reply (line :: rest) ⟨answer :: served.lines, served.loss⟩
  | lost {line : List Char} {loss : Loss} {rest : List (List Char)}
      (hreply : reply line = .error loss) : Serves reply (line :: rest) ⟨[], some loss⟩

namespace Served

@[simp] theorem nothing_andThen (s : Served) : nothing.andThen s = s := rfl

@[simp] theorem andThen_nothing (s : Served) : s.andThen nothing = s := by
  obtain ⟨lines, loss⟩ := s
  cases loss <;> simp [andThen, nothing]

theorem andThen_assoc (a b c : Served) : (a.andThen b).andThen c = a.andThen (b.andThen c) := by
  obtain ⟨lines, loss⟩ := a
  obtain ⟨lines', loss'⟩ := b
  cases loss <;> cases loss' <;> simp [andThen]

end Served

theorem Serves.oneLine {reply : List Char → Except Loss String} {requests : List (List Char)}
    {served : Served} (h : Serves reply requests served)
    (hreply : ∀ line answer, reply line = .ok answer → Text.OneLine answer.toList) :
    ∀ answer ∈ served.lines, Text.OneLine answer.toList := by
  induction h with
  | done | lost => simp [Served.nothing]
  | answered hline _ ih => exact List.forall_mem_cons.2 ⟨hreply _ _ hline, ih⟩

theorem Serves.complete {reply : List Char → Except Loss String} {requests : List (List Char)}
    {served : Served} (h : Serves reply requests served)
    (hreply : ∀ line ∈ requests, ∃ answer, reply line = .ok answer) :
    served.loss = none ∧
      List.Forall₂ (fun line answer => reply line = .ok answer) requests served.lines := by
  induction h with
  | done => exact ⟨rfl, .nil⟩
  | answered hline _ ih =>
    obtain ⟨hloss, hlines⟩ := ih fun line hmem => hreply line (List.mem_cons_of_mem _ hmem)
    exact ⟨hloss, .cons hline hlines⟩
  | lost hline =>
    obtain ⟨answer, hanswer⟩ := hreply _ List.mem_cons_self
    exact nomatch hline.symm.trans hanswer

namespace Handler

variable {h : Handler}

theorem serves_serveLines (requests : List (List Char)) :
    Serves h.reply (requests.filter fun line => !(Text.trim line).isEmpty)
      (h.serveLines requests) := by
  induction requests with
  | nil => exact .done
  | cons line rest ih =>
    rw [serveLines, serveLine]
    by_cases hblank : (Text.trim line).isEmpty
    · simpa [hblank] using ih
    · cases hreply : h.reply line with
      | ok answer => simpa [hblank, hreply, Served.andThen] using Serves.answered hreply ih
      | error loss => simpa [hblank, hreply, Served.andThen] using Serves.lost hreply

theorem serves_serve (text : List Char) :
    Serves h.reply (Text.filledLines text) (h.serve text) := by
  rw [Text.filledLines_eq]
  exact serves_serveLines (Text.lines text)

theorem serveLines_append (before after : List (List Char)) :
    h.serveLines (before ++ after) = (h.serveLines before).andThen (h.serveLines after) := by
  induction before with
  | nil => rfl
  | cons line rest ih => rw [List.cons_append, serveLines, serveLines, ih, Served.andThen_assoc]

/-- A text that is served line by line as it comes is served as a whole. -/
theorem servePieces_eq {pieces : List (List Char)}
    (hpieces : ∀ piece ∈ pieces.dropLast, ∃ line, piece = line ++ ['\n']) :
    h.servePieces pieces = h.serve pieces.flatten := by
  induction pieces with
  | nil => rfl
  | cons piece rest ih =>
    cases rest with
    | nil => simp [servePieces]
    | cons next rest =>
      obtain ⟨hpiece, hrest⟩ := List.forall_mem_cons.1 hpieces
      obtain ⟨line, rfl⟩ := hpiece
      have htext : ((line ++ ['\n']) :: next :: rest).flatten =
          line ++ '\n' :: (next :: rest).flatten := by simp
      calc h.servePieces ((line ++ ['\n']) :: next :: rest)
        _ = (h.serve (line ++ ['\n'])).andThen (h.serve (next :: rest).flatten) := by
          rw [servePieces, ih hrest]
        _ = h.serveLines (Text.lines (line ++ ['\n']) ++ Text.lines (next :: rest).flatten) :=
          (serveLines_append _ _).symm
        _ = h.serve ((line ++ ['\n']) :: next :: rest).flatten := by
          rw [← Text.lines_append, ← htext, serve]

end Handler

namespace CommandLine

namespace Output

/-- The text that the lines on the standard output make up. -/
def printed (o : Output) : List Char := o.stdout.flatMap fun line => line.toList ++ ['\n']

theorem lines_printed {o : Output} (h : ∀ line ∈ o.stdout, Text.OneLine line.toList) :
    Text.lines o.printed = o.stdout.map String.toList := by
  have htexts : ∀ text ∈ o.stdout.map String.toList, Text.OneLine text := by simpa using h
  rw [← Text.lines_flatMap htexts, List.flatMap_map, printed]

end Output

variable {registry : Registry} {id : String} {caps : Capabilities}

theorem runServe_eq (h : registry.require id = .ok caps) (text : String) :
    runServe registry id text = .ofServed ((Handler.ofTable caps).serve text.toList) := by
  simp [runServe, h, mapError_ok, Output.ofResult]

/-- Each request is answered on a line of its own, in the order in which they came, by a text that
depends on nothing but the request, and it does not matter whether they come at once or line by
line. The answers stop short only at a request that is lost, which has to run a pattern that lets a
match start anew where it looks behind. -/
theorem runServe_lines (h : registry.require id = .ok caps) :
    ∃ reply : List Char → Except Loss String,
      (∀ line, (Handler.ofTable caps).Answers line (reply line)) ∧
      (∀ line, (Handler.ofTable caps).KeepsAhead line → ∃ answer, reply line = .ok answer) ∧
      ∀ text : String, ∃ served,
        Serves reply (Text.filledLines text.toList) served ∧
        runServe registry id text = .ofServed served ∧
        Text.lines (runServe registry id text).printed = served.lines.map String.toList ∧
        ((∀ line ∈ Text.filledLines text.toList, (Handler.ofTable caps).KeepsAhead line) →
          served.loss = none ∧ List.Forall₂ (fun line answer => reply line = .ok answer)
            (Text.filledLines text.toList) served.lines) ∧
        ∀ pieces, pieces.flatten = text.toList →
          (∀ piece ∈ pieces.dropLast, ∃ line, piece = line ++ ['\n']) →
          (Handler.ofTable caps).servePieces pieces = served := by
  have hdialect := caps.dialect.nearest_eq
  have hahead : ∀ line, (Handler.ofTable caps).KeepsAhead line →
      ∃ answer, (Handler.ofTable caps).reply line = .ok answer :=
    fun _ hline => Handler.reply_of_keepsAhead hdialect hline
  refine ⟨(Handler.ofTable caps).reply, Handler.answers_reply, hahead, ?_⟩
  intro text
  have hserves := (Handler.ofTable caps).serves_serve text.toList
  refine ⟨_, hserves, runServe_eq h text, ?_, ?_, ?_⟩
  · rw [runServe_eq h]
    exact Output.lines_printed (hserves.oneLine fun _ _ => Handler.oneLine_reply)
  · intro hall
    exact hserves.complete fun line hline => hahead line (hall line hline)
  · intro pieces htext hpieces
    rw [Handler.servePieces_eq hpieces, htext]

theorem runServe_lines_words :
    Registry.require ⟨[.words]⟩ "words" = .ok .words ∧
    ∃ first second, (Handler.ofTable .words).Answers ['x'] (.ok first) ∧
      (Handler.ofTable .words).Answers ['y'] (.ok second) ∧
      runServe ⟨[.words]⟩ "words" "x\n \r\ny" = .lines [first, second] := by
  have hwords : Registry.require ⟨[.words]⟩ "words" = .ok .words := by rfl
  have hfilled : Text.filledLines "x\n \r\ny".toList = [['x'], ['y']] := by decide
  have hunread : ∀ line ∈ [['x'], ['y']],
      (RemoteRequest.codec.ofString (String.ofList line)).toOption = none := by
    decide +kernel
  have hahead : ∀ line ∈ [['x'], ['y']], (Handler.ofTable .words).KeepsAhead line := by
    intro line hline request hrequest
    have hnone := hunread line hline
    rw [hrequest] at hnone
    contradiction
  obtain ⟨reply, hanswers, -, hserved⟩ := runServe_lines hwords
  obtain ⟨⟨lines, loss⟩, -, hrun, -, hcomplete, -⟩ := hserved "x\n \r\ny"
  rw [hfilled] at hcomplete
  obtain ⟨rfl, hlines⟩ := hcomplete hahead
  match lines, hlines with
  | [first, second], .cons hfirst (.cons hsecond .nil) =>
    exact ⟨hwords, first, second, hfirst ▸ hanswers ['x'], hsecond ▸ hanswers ['y'], hrun⟩

/-- A request to replace matches that start anew in the character before them, so that the second
one starts inside the first one. -/
def overlapping : String :=
  "\x7b\"action\":\"replace\",\"payload\":\x7b\"input\":[\"aaa\"],\"regexes\":[\x7b\"id\":1," ++
    "\"regex\":\"(?<=\\\\Ka)a\",\"replace\":\"X\"\x7d]\x7d\x7d"

def harmless : String :=
  "\x7b\"action\":\"replace\",\"payload\":\x7b\"input\":[\"a\"],\"regexes\":[]\x7d\x7d"

/-- A request that is answered alone has no answer behind one that is lost. -/
theorem runServe_lost :
    (Text.filledLines (overlapping ++ "\n" ++ harmless).toList).length = 2 ∧
    ∃ registry, Registry.builtin = .ok registry ∧
      runServe registry "fancy-regex" harmless =
        .lines ["[\x7b\"duration\":0.0,\"sample\":\"a\"\x7d]"] ∧
      runServe registry "fancy-regex" (overlapping ++ "\n" ++ harmless) =
        ⟨[], [], .lost .crash⟩ := by
  have hlines : (Text.filledLines (overlapping ++ "\n" ++ harmless).toList).length = 2 := by
    decide +kernel
  have hruns : Registry.builtin.toOption.map (fun registry =>
      (runServe registry "fancy-regex" harmless,
        runServe registry "fancy-regex" (overlapping ++ "\n" ++ harmless))) =
      some (.lines ["[\x7b\"duration\":0.0,\"sample\":\"a\"\x7d]"], ⟨[], [], .lost .crash⟩) := by
    decide +kernel
  obtain ⟨registry, hregistry, hpair⟩ := Option.map_eq_some_iff.1 hruns
  obtain ⟨halone, hlost⟩ := Prod.mk.inj hpair
  exact ⟨hlines, registry, toOption_eq_some.1 hregistry, halone, hlost⟩

end CommandLine

end RegexGateway
