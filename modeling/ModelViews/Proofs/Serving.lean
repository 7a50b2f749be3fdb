import ModelViews.Proofs.JsonReading
import ModelViews.Proofs.Stages
import ModelViews.Service.Session
/-!
Serving requests. Whatever the input holds, a reader without limits lets every line that is not blank be
answered, by one line in its turn; what the answer to a line says is told by what the line asks for and
by the tree that the lines before it left. A session within limits does the same up to the line at which
it is cut off.
-/
namespace ModelViews.Service

open Json Wire

def errorCode? (reply : Wire) : Option Int :=
  match (reply.member? "error").bind (·.member? "code") with
  | some (.int code) => some code
  | _ => none

variable {σ ε : Type} (generator : Generator σ ε)

structure Replies (state : σ) (line : String) (reply : Wire) (left : σ) : Prop where
  version : reply.member? "jsonrpc" = some (.str "2.0")
  identity : ∀ members, readWithin .unbounded line = .ok (.obj members) →
    (identityOf members).IsFloatFree → reply.member? "id" = some (identityOf members)
  noIdentity : (∀ members, readWithin .unbounded line ≠ .ok (.obj members)) →
    reply.member? "id" = some .null
  notJson : errorCode? reply = some (-32700) ↔
    ∃ error, readWithin .unbounded line = .error error
  notObject : errorCode? reply = some (-32600) ↔
    ∃ value, readWithin .unbounded line = .ok value ∧ ∀ members, value ≠ .obj members
  unknownMethod : errorCode? reply = some (-32601) ↔
    ∃ members, readWithin .unbounded line = .ok (.obj members) ∧
      methodOf members ≠ .str "getManifest" ∧ methodOf members ≠ .str "generate"
  failed : errorCode? reply = some (-32000) ↔
    ∃ members failure, readWithin .unbounded line = .ok (.obj members) ∧
      methodOf members = .str "generate" ∧
      (generator (paramsOf members) state).outcome = .error failure
  otherwise : reply.member? "result" = none ∧
      (∃ code ∈ [-32700, -32600, -32601, -32000], errorCode? reply = some code) ∨
    reply.member? "error" = none ∧ ∃ result, reply.member? "result" = some result
  generates : ∀ members, readWithin .unbounded line = .ok (.obj members) →
    methodOf members = .str "generate" → left = (generator (paramsOf members) state).state
  others : (∀ members, readWithin .unbounded line = .ok (.obj members) →
    methodOf members ≠ .str "generate") → left = state

/-- Lines and the lines that answer them, from a state to the state that is left. -/
inductive Transcript : σ → List String → List String → σ → Prop where
  | nil (state : σ) : Transcript state [] [] state
  | cons {state next left : σ} {line response : String} {reply : Wire} {lines responses : List String}
      (oneLine : '\n' ∉ response.toList) (read : readWithin .unbounded response = .ok reply)
      (replies : Replies generator state line reply next) (rest : Transcript next lines responses left) :
      Transcript state (line :: lines) (response :: responses) left

variable {generator}

/-! Requests. -/

section Requests

variable {members : List (CodeText × Wire)} {state : σ}

private theorem named_eq_some {value : Wire} {method : Method} :
    Method.named? value = some method ↔ value = .str method.name := by
  constructor
  · intro named
    cases value with
    | str text =>
        rw [Method.named?] at named
        have same := List.find?_some named
        rw [of_decide_eq_true same]
    | _ => cases named
  · rintro rfl
    exact named_name method

private theorem methods_apart : ("getManifest" : CodeText) ≠ "generate" := by
  decide +kernel

private theorem handle_manifest (asks : methodOf members = .str "getManifest") :
    handle generator members state =
      ⟨state, [], ⟨identityOf members, .ok (.obj [("manifest", manifest)])⟩⟩ := by
  have named : Method.named? (methodOf members) = some .getManifest := named_eq_some.mpr asks
  simp only [handle, named]

private theorem handle_unknown (manifest : methodOf members ≠ .str "getManifest")
    (generate : methodOf members ≠ .str "generate") :
    handle generator members state =
      ⟨state, [], ⟨identityOf members, .error (.unknownMethod (methodOf members))⟩⟩ := by
  have unnamed : Method.named? (methodOf members) = none := by
    rw [Option.eq_none_iff_forall_ne_some]
    intro method named
    cases method with
    | getManifest => exact manifest (named_eq_some.mp named)
    | generate => exact generate (named_eq_some.mp named)
  simp only [handle, unnamed]

private theorem handle_identity (generator : Generator σ ε) (members : List (CodeText × Wire))
    (state : σ) :
    (handle generator members state).answer.id = identityOf members := by
  rw [handle]
  split
  · rfl
  · simp only
    split <;> rfl
  · rfl

end Requests

/-! Replies. -/

section Reply

variable [Told ε] {f : Number.Binary64 → Number.Binary64} {line : String} {state : σ}
  {members : List (CodeText × Wire)}

private theorem isSettled_identity (read : readWithin .unbounded line = .ok (.obj members)) :
    (identityOf members).IsSettled := by
  rw [identityOf, given]
  cases found : members.lookup ("id" : CodeText) with
  | none => exact isSettled_null
  | some id =>
      obtain ⟨before, after, split, _⟩ := List.lookup_eq_some_iff.mp found
      have member : (("id" : CodeText), id) ∈ members := by simp [split]
      exact fun inner inside => isSettled_of_read read inner (.member member inside)

private theorem isTidy_str (text : CodeText) : (str text).IsTidy := by
  apply isTidy_of_flat
  rintro members ⟨⟩

private theorem isTidy_manifest : (obj [("manifest", manifest)]).IsTidy := by
  have held : manifest.IsTidy :=
    isTidy_obj (by decide +kernel) (by simp [isTidy_str])
  exact isTidy_obj (by simp) (by simpa using held)

private theorem isTidy_json {answer : Answer ε} (identity : answer.id.IsTidy)
    (results : ∀ result, answer.outcome = .ok result → result.IsTidy) : answer.json.IsTidy := by
  obtain ⟨id, refusal | result⟩ := answer
  · have code : (Wire.int refusal.code).IsTidy := by
      apply isTidy_of_flat
      rintro members ⟨⟩
    have error : (obj [("code", .int refusal.code), ("message", .str refusal.message)]).IsTidy := by
      refine isTidy_obj ?_ (by simp [code, isTidy_str])
      simp only [List.map]
      decide +kernel
    refine isTidy_obj ?_ (by simp [isTidy_str, identity, error])
    simp only [List.map]
    decide +kernel
  · refine isTidy_obj ?_ (by simp [isTidy_str, identity, results result rfl])
    simp only [List.map]
    decide +kernel

/-! What an answer says as a reply. -/

def Answer.code? (answer : Answer ε) : Option Int :=
  (errorOf? answer.outcome).map Refusal.code

private theorem errorCode?_reply (answer : Answer ε) :
    errorCode? (reread f answer.json) = answer.code? := by
  obtain ⟨id, refusal | result⟩ := answer <;> rfl

private theorem jsonrpc_reply (answer : Answer ε) :
    (reread f answer.json).member? "jsonrpc" = some (.str "2.0") := by
  obtain ⟨id, refusal | result⟩ := answer <;> rfl

private theorem id_reply (answer : Answer ε) :
    (reread f answer.json).member? "id" = some (reread f answer.id) := by
  obtain ⟨id, refusal | result⟩ := answer <;> rfl

private theorem result_reply (answer : Answer ε) :
    (reread f answer.json).member? "result" = none ∧
        (∃ code ∈ [-32700, -32600, -32601, -32000],
          errorCode? (reread f answer.json) = some code) ∨
      (reread f answer.json).member? "error" = none ∧
        ∃ result, (reread f answer.json).member? "result" = some result := by
  obtain ⟨id, refusal | result⟩ := answer
  · have known : refusal.code ∈ [-32700, -32600, -32601, -32000] := by
      cases refusal <;> simp [Refusal.code]
    exact .inl ⟨rfl, refusal.code, known, rfl⟩
  · exact .inr ⟨rfl, _, rfl⟩

private theorem replies_refused {refusal : Refusal ε}
    (apart : ∀ members, readWithin .unbounded line ≠ .ok (.obj members))
    (notJson : refusal.code = -32700 ↔ ∃ error, readWithin .unbounded line = .error error)
    (notObject : refusal.code = -32600 ↔ ∃ value, readWithin .unbounded line = .ok value)
    (codes : refusal.code = -32700 ∨ refusal.code = -32600) :
    Replies generator state line (reread f (Answer.json ⟨.null, .error refusal⟩)) state := by
  have code : errorCode? (reread f (Answer.json ⟨.null, .error refusal⟩)) =
      some refusal.code := rfl
  have noMethod : refusal.code ≠ -32601 ∧ refusal.code ≠ -32000 := by omega
  refine ⟨rfl, ?_, fun _ => rfl, ?_, ?_, ?_, ?_, result_reply _, ?_, fun _ => rfl⟩
  · exact fun members read => absurd read (apart members)
  · rw [code, Option.some.injEq, notJson]
  · rw [code, Option.some.injEq, notObject]
    constructor
    · rintro ⟨value, read⟩
      exact ⟨value, read, fun members same => apart members (same ▸ read)⟩
    · rintro ⟨value, read, _⟩
      exact ⟨value, read⟩
  · simp [code, noMethod.1, apart]
  · simp [code, noMethod.2, apart]
  · exact fun members read => absurd read (apart members)

private theorem replies_request {answer : Answer ε} {left : σ}
    (read : readWithin .unbounded line = .ok (.obj members))
    (identity : answer.id = identityOf members)
    (unknown : answer.code? = some (-32601) ↔
      methodOf members ≠ .str "getManifest" ∧ methodOf members ≠ .str "generate")
    (failed : answer.code? = some (-32000) ↔ methodOf members = .str "generate" ∧
      ∃ failure, (generator (paramsOf members) state).outcome = .error failure)
    (codes : ∀ code ∈ answer.code?, code = -32601 ∨ code = -32000)
    (generates : methodOf members = .str "generate" →
      left = (generator (paramsOf members) state).state)
    (others : methodOf members ≠ .str "generate" → left = state) :
    Replies generator state line (reread f answer.json) left := by
  have apart (code : Int) (foreign : code ≠ -32601 ∧ code ≠ -32000) : answer.code? ≠ some code := by
    intro same
    have known := codes code same
    omega
  refine ⟨jsonrpc_reply _, ?_, ?_, ?_, ?_, ?_, ?_, result_reply _, ?_, ?_⟩
  · simp only [read, Except.ok.injEq, Wire.obj.injEq]
    rintro _ rfl free
    rw [id_reply, identity, reread_of_settled (isSettled_identity read) free]
  · simp [read]
  · simp [errorCode?_reply, read, apart]
  · simp [errorCode?_reply, read, apart]
  · simp [errorCode?_reply, read, unknown]
  · simp [errorCode?_reply, read, failed]
  · simpa [read] using generates
  · simpa [read] using others

private theorem replies_handle (read : readWithin .unbounded line = .ok (.obj members))
    (state : σ) :
    Replies generator state line (reread f (handle generator members state).answer.json)
      (handle generator members state).state := by
  have identity := handle_identity generator members state
  -- the two methods that are known, and any other
  by_cases manifest : methodOf members = .str "getManifest"
  · rw [handle_manifest manifest]
    exact replies_request read rfl (by simp [Answer.code?, manifest])
      (by simp [Answer.code?, manifest, methods_apart]) (by simp [Answer.code?])
      (by simp [manifest, methods_apart])
      fun _ => rfl
  by_cases asks : methodOf members = .str "generate"
  · obtain ⟨left, outcome, _⟩ := handle_generate generator asks state
    have code : (handle generator members state).answer.code? =
        (errorOf? (generator (paramsOf members) state).outcome).map fun _ => -32000 := by
      rw [Answer.code?, outcome]
      cases (generator (paramsOf members) state).outcome <;> rfl
    refine replies_request read identity ?_ ?_ ?_ (fun _ => left) (absurd asks)
    · simp [code, asks]
    · cases ends : (generator (paramsOf members) state).outcome <;> simp [code, ends, asks]
    · simp [code]
  · rw [handle_unknown manifest asks]
    exact replies_request read rfl (by simp [Answer.code?, Refusal.code, manifest, asks])
      (by simp [Answer.code?, Refusal.code, asks]) (by simp [Answer.code?, Refusal.code])
      (absurd · asks) fun _ => rfl

private theorem isTidy_handle (read : readWithin .unbounded line = .ok (.obj members)) (state : σ) :
    (handle generator members state).answer.json.IsTidy := by
  have id : (handle generator members state).answer.id.IsTidy := by
    rw [handle_identity]
    exact (isSettled_identity read).tidy
  apply isTidy_json id
  intro result ends
  by_cases manifest : methodOf members = .str "getManifest"
  · rw [handle_manifest manifest] at ends
    cases ends
    exact isTidy_manifest
  by_cases asks : methodOf members = .str "generate"
  · obtain ⟨_, outcome, _⟩ := handle_generate generator asks state
    rw [outcome] at ends
    cases run : (generator (paramsOf members) state).outcome with
    | error failure =>
        rw [run] at ends
        cases ends
    | ok generated =>
        rw [run] at ends
        cases ends
        exact isSettled_null.tidy
  · rw [handle_unknown manifest asks] at ends
    cases ends

/-- Without limits every line is answered. -/
theorem handleLine_replies (generator : Generator σ ε) (f : Number.Binary64 → Number.Binary64)
    (line : String) (state : σ) :
    ∃ handled, handleLine generator .unbounded line state = .ok handled ∧
      handled.answer.json.IsTidy ∧
      Replies generator state line (reread f handled.answer.json) handled.state := by
  have refused (refusal : Refusal ε) : (Answer.json ⟨.null, .error refusal⟩).IsTidy :=
    isTidy_json isSettled_null.tidy (by simp)
  cases read : readWithin .unbounded line with
  | error error =>
      obtain ⟨flaw, rfl⟩ := malformed_of_read read
      refine ⟨_, by rw [handleLine, read], refused _, ?_⟩
      apply replies_refused <;> simp [read, Refusal.code]
  | ok value =>
      by_cases request : ∃ members, value = .obj members
      · obtain ⟨members, rfl⟩ := request
        exact ⟨handle generator members state, by rw [handleLine, read], isTidy_handle read state,
          replies_handle read state⟩
      · have apart : ∀ members, value ≠ .obj members := fun members same => request ⟨members, same⟩
        have handled : handleLine generator .unbounded line state =
            .ok ⟨state, [], ⟨.null, .error .notAnObject⟩⟩ := by
          rw [handleLine, read]
          cases value with
          | obj members => exact absurd rfl (apart members)
          | _ => rfl
        refine ⟨_, handled, refused _, ?_⟩
        apply replies_refused <;> simp [read, apart, Refusal.code]

end Reply

/-! Sessions. -/

section Sessions

variable {limits : Limits}

private theorem transcript_answerAll [Told ε] (generator : Generator σ ε)
    {f : Number.Binary64 → Number.Binary64}
    (reads : ∀ v : Wire, v.IsTidy → readWithin .unbounded v.render = .ok (reread f v))
    (lines : List String) (state : σ) :
    let served := answerAll generator .unbounded state lines
    served.failure = none ∧ Transcript generator state lines served.lines served.state := by
  induction lines generalizing state with
  | nil => exact ⟨rfl, .nil state⟩
  | cons line rest ih =>
      obtain ⟨handled, found, tidy, replies⟩ :=
        handleLine_replies generator f line state
      obtain ⟨unbroken, others⟩ := ih handled.state
      have session : answerAll generator .unbounded state (line :: rest) =
          { answerAll generator .unbounded handled.state rest with
            log := handled.log ++ (answerAll generator .unbounded handled.state rest).log
            answers :=
              handled.answer :: (answerAll generator .unbounded handled.state rest).answers } := by
        rw [answerAll, found]
      rw [session]
      exact ⟨unbroken, .cons (newline_not_mem_render _) (reads _ tidy) replies others⟩

private theorem answerAll_append (first second : List String) (state : σ)
    (unbroken : (answerAll generator limits state first).failure = none) :
    let before := answerAll generator limits state first
    let after := answerAll generator limits before.state second
    answerAll generator limits state (first ++ second) =
      { after with log := before.log ++ after.log, answers := before.answers ++ after.answers } := by
  induction first generalizing state with
  | nil => rfl
  | cons line rest ih =>
      cases found : handleLine generator limits line state with
      | error failure =>
          simp only [answerAll, found] at unbroken
          cases unbroken
      | ok handled =>
          simp only [answerAll, found] at unbroken
          simp only [List.cons_append, answerAll, found, ih handled.state unbroken,
            List.append_assoc]

/-- A line is answered within limits as without, or not at all. -/
theorem handleLine_follows (generator : Generator σ ε) (limits : Limits) (line : String)
    (state : σ) :
    handleLine generator limits line state = handleLine generator .unbounded line state ∨
      ∃ failure, handleLine generator limits line state = .error failure := by
  obtain same | ⟨error, refused, refusal⟩ := readWithin_follows limits line
  · left
    rw [handleLine, handleLine, same]
  · right
    cases error with
    | malformed flaw => exact absurd rfl (refusal flaw)
    | number error => exact ⟨_, by rw [handleLine, refused]⟩
    | tooDeep container => exact ⟨_, by rw [handleLine, refused]⟩

private theorem answerAll_follows (generator : Generator σ ε) (limits : Limits)
    (lines : List String)
    (state : σ) :
    let cut := answerAll generator limits state lines
    let served := answerAll generator .unbounded state lines
    cut.answers <+: served.answers ∧ (cut.failure = none → cut = served) := by
  induction lines generalizing state with
  | nil => exact ⟨List.prefix_rfl, fun _ => rfl⟩
  | cons line rest ih =>
      obtain same | ⟨failure, cut⟩ := handleLine_follows generator limits line state
      · cases found : handleLine generator .unbounded line state with
        | error failure =>
            rw [found] at same
            simp only [answerAll, same, found]
            exact ⟨List.prefix_rfl, fun _ => trivial⟩
        | ok handled =>
            rw [found] at same
            obtain ⟨begins, unbroken⟩ := ih handled.state
            simp only [answerAll, same, found]
            refine ⟨(List.prefix_cons_inj _).mpr begins, fun none => ?_⟩
            rw [unbroken none]
      · simp only [answerAll, cut]
        exact ⟨List.nil_prefix, fun none => by cases none⟩

theorem Transcript.length_eq {state left : σ} {lines responses : List String}
    (transcript : Transcript generator state lines responses left) :
    responses.length = lines.length := by
  induction transcript with
  | nil state => rfl
  | cons oneLine read replies rest ih => rw [List.length_cons, List.length_cons, ih]

private theorem requestLines_append {input : String} (ends : input.toList.getLast? = some '\n')
    (rest : String) : requestLines (input ++ rest) = requestLines input ++ requestLines rest := by
  obtain ⟨before, same⟩ := List.getLast?_eq_some_iff.mp ends
  have whole : Text.lines input = (before.splitOn '\n').map String.ofList ++ [""] := by
    rw [Text.lines, Text.pieces, same, List.splitOn_append_cons_self]
    simp
  have joined : Text.lines (input ++ rest) =
      (before.splitOn '\n').map String.ofList ++ Text.lines rest := by
    rw [Text.lines, Text.pieces, String.toList_append, same, List.append_assoc, List.singleton_append,
      List.splitOn_append_cons_self, List.map_append]
    rfl
  have some : Text.lines rest ≠ [] := by
    rw [Text.lines, Text.pieces, Ne, List.map_eq_nil_iff]
    exact List.splitOn_ne_nil _ _
  have blank : isBlankLine "" = true := by decide
  simp only [requestLines, inputLines, whole, joined, List.dropLast_append_of_ne_nil some,
    List.getLast?_append_of_ne_nil _ some, List.dropLast_concat, List.getLast?_concat,
    Option.toList_some, List.map_append, List.filter_append, List.append_assoc]
  simp [blank]

end Sessions

/-- Serving a text without limits answers each of its requests by one line, in order, and never ends
early, whatever the generator does, and whatever it does it to. Of a text that ends with a line feed
and a text after it, the second is served on what the first left. Within limits a session gives the
same answers, all of them if it is not cut off. -/
theorem every_line_answered {σ ε : Type} [Told ε] (generator : Generator σ ε) (input : String)
    (state : σ) :
    let served := serveWithin generator .unbounded input state
    served.failure = none ∧ served.lines.length = (requestLines input).length ∧
      Transcript generator state (requestLines input) served.lines served.state ∧
      (input.toList.getLast? = some '\n' → ∀ rest,
        let both := serveWithin generator .unbounded (input ++ rest) state
        let after := serveWithin generator .unbounded rest served.state
        both.lines = served.lines ++ after.lines ∧ both.state = after.state) ∧
      ∀ limits,
        let cut := serveWithin generator limits input state
        cut.lines <+: served.lines ∧ (cut.failure = none → cut = served) := by
  intro served
  obtain ⟨f, blanks⟩ := read_render
  have reads (reply : Wire) (tidy : reply.IsTidy) :
      readWithin .unbounded reply.render = .ok (reply.reread f) := by
    simpa using blanks reply tidy "" (by simp)
  obtain ⟨unbroken, transcript⟩ :=
    transcript_answerAll generator reads (requestLines input) state
  refine ⟨unbroken, transcript.length_eq, transcript, ?_, ?_⟩
  · intro ends rest both after
    have joined : both = { after with
        log := served.log ++ after.log, answers := served.answers ++ after.answers } := by
      change answerAll generator .unbounded state (requestLines (input ++ rest)) = _
      rw [requestLines_append ends]
      exact answerAll_append _ _ _ unbroken
    rw [joined]
    exact ⟨List.map_append, rfl⟩
  · intro limits cut
    obtain ⟨begins, same⟩ :=
      answerAll_follows generator limits (requestLines input) state
    exact ⟨begins.map _, same⟩

/-- A request under half of a pair, and a line after it that is no request. -/
theorem two_lines_answered :
    let first := "\x7b\"id\": \"\\ud800\"\x7d\n"
    let half : Wire := .str [.half 0]
    let tree : Tree := ⟨[], []⟩
    (∃ response reply, (serveWithin publisher .unbounded first tree).lines = [response] ∧
      readWithin .unbounded response = .ok reply ∧ reply.member? "id" = some half ∧
      errorCode? reply = some (-32601)) ∧
    (serveWithin publisher .unbounded (first ++ "[]") tree).lines =
      (serveWithin publisher .unbounded first tree).lines ++
        (serveWithin publisher .unbounded "[]" tree).lines ∧
    serve first tree = serveWithin publisher .unbounded first tree := by
  intro first half tree
  obtain ⟨_, _, transcript, append, within⟩ := every_line_answered publisher first tree
  have lines : requestLines first = [first] := by decide +kernel
  have read : readWithin .unbounded first = .ok (.obj [("id", half)]) := by
    obtain ⟨f, reads⟩ := read_render
    have tidy : (Wire.obj [("id", half)]).IsTidy := isTidy_obj (by simp) (by simp [half, isTidy_str])
    have written : first = (Wire.obj [("id", half)]).render ++ "\n" := by decide +kernel
    rw [written]
    exact reads _ tidy "\n" (by simp [isSpace])
  have named : identityOf [("id", half)] = half := rfl
  have asks : methodOf [("id", half)] = .null := rfl
  have free : (identityOf [("id", half)]).IsFloatFree := by
    change (Wire.str [.half 0]).IsFloatFree
    rintro number ⟨⟩
  have uncut : (serveWithin publisher .standard first tree).failure = none := by
    rw [← Option.isNone_iff_eq_none]
    decide +kernel
  have feed : first.toList.getLast? = some '\n' := by decide +kernel
  clear_value first
  rw [lines] at transcript
  have joined := (append feed "[]").1
  have program : serve first tree = serveWithin publisher .unbounded first tree :=
    (within .standard).2 uncut
  refine ⟨?_, joined, program⟩
  generalize (serveWithin publisher .unbounded first tree).lines = responses at transcript
  cases transcript with
  | @cons _ next _ _ response reply _ _ oneLine readBack replies rest =>
      cases rest
      have identity := replies.identity _ read free
      rw [named] at identity
      refine ⟨response, reply, rfl, readBack, identity, ?_⟩
      exact replies.unknownMethod.mpr ⟨_, read, by simp [asks], by simp [asks]⟩

end ModelViews.Service
