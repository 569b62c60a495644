import AsterTeam.Gateway.StreamDelivery

/-! Which model names a client can read in a stream: complete frames are rewritten, the
bytes after the last complete frame are not.
-/

namespace AsterTeam

open List

open AssocList Json Utf8Lines

structure NamesOnly (publicModel : String) (event : Document) : Prop where
  model : ∀ value ∈ event.get "model", value = .string publicModel
  response
    : ∀ response ∈ event.get "response", ∀ value ∈ response.get "model", value = .string publicModel

/-- The two places of an event that name a model. -/
def modelFields (event : Document) : Option Document × Option Document :=
  (event.get "model", (event.get "response").bind (·.get "model"))

/-- One line of text without outer white space. -/
structure Tight (text : List Char) : Prop where
  first : ∃ char rest, text = char :: rest ∧ isWhitespace char = false
  last : ∃ front char, text = front ++ [char] ∧ isWhitespace char = false
  single : '\n' ∉ text

/-- What the JSON library keeps to when it prints a parsed event with its models replaced:
the text is one line without outer white space, and whoever can parse it reads the same two
models. Nothing is asked of the other fields.
-/
structure JsonCodec.Lawful (codec : JsonCodec) (publicModel : String) : Prop where
  tight
    : ∀ text event,
        codec.parse text = some event
        → Tight (codec.print (rewriteModelFields event publicModel))
  models
    : ∀ text event read,
        codec.parse text = some event
        → codec.parse (codec.print (rewriteModelFields event publicModel)) = some read
        → modelFields read = modelFields (rewriteModelFields event publicModel)

theorem NamesOnly.of_modelFields {event read : Document} (named : NamesOnly publicModel event)
    (same : modelFields read = modelFields event)
    : NamesOnly publicModel read := by
  obtain ⟨top, inner⟩ := Prod.mk.inj same
  refine ⟨?_, ?_⟩
  · rw [top]
    exact named.model
  · intro response hr value hv
    have there : value ∈ (read.get "response").bind (·.get "model") :=
      Option.bind_eq_some_iff.mpr ⟨response, hr, hv⟩
    rw [inner] at there
    obtain ⟨original, ho, hm⟩ := Option.bind_eq_some_iff.mp there
    exact named.response original ho value hm

variable {document value : Document} {name : String}

theorem get_setField (present : (document.get name).isSome)
    : (setField document name value).get name = some value := by
  cases document with
  | object fields => simp [setField, Document.assign, Document.get]
  | null => cases present
  | bool _ => cases present
  | integer _ => cases present
  | real _ => cases present
  | string _ => cases present
  | array _ => cases present

theorem get_setField_ne (present : (document.get name).isSome) (ha : other ≠ name)
    : (setField document name value).get other = document.get other := by
  cases document with
  | object fields =>
    simp [setField, Document.assign, Document.get, lookup_upsert_ne ha]
  | null => cases present
  | bool _ => cases present
  | integer _ => cases present
  | real _ => cases present
  | string _ => cases present
  | array _ => cases present

theorem rewriteModelFields_names (event : Document) (publicModel : String)
    : NamesOnly publicModel (rewriteModelFields event publicModel) := by
  have hres : "response" ≠ "model" := by decide
  have top
      : ∃ renamed,
          renamed
            = (if (event.get "model").isSome then
                setField event "model" (.string publicModel)
              else event)
          ∧ (∀ value ∈ renamed.get "model", value = .string publicModel) := by
    refine ⟨_, rfl, ?_⟩
    intro value hv
    split at hv
    · rename_i present
      rw [get_setField present] at hv
      exact (Option.some.inj hv).symm
    · rename_i absent
      exact absurd (Option.isSome_of_mem hv) absent
  obtain ⟨renamed, hre, names⟩ := top
  unfold rewriteModelFields
  dsimp only
  rw [← hre]
  split
  · rename_i response hr
    have present : (renamed.get "response").isSome := by
      rw [hr]
      rfl
    split
    · rename_i hn
      refine ⟨?_, ?_⟩
      · intro value hv
        rw [get_setField_ne present hres.symm] at hv
        exact names value hv
      · intro inner hi value hv
        rw [get_setField present] at hi
        cases hi
        rw [get_setField hn] at hv
        exact (Option.some.inj hv).symm
    · rename_i unnamed
      refine ⟨names, ?_⟩
      intro inner hi value hv
      rw [hr] at hi
      cases hi
      exact absurd (Option.isSome_of_mem hv) unnamed
  · rename_i absent
    refine ⟨names, ?_⟩
    intro inner hi
    rw [absent] at hi
    cases hi

/-- Trimming removes white space around a text that begins and ends without any. -/
theorem trim_of_tight (white : List Char) (blank : ∀ char ∈ white, isWhitespace char)
    (hb : core = first :: rest) (hf : isWhitespace first = false) (ends : core = front ++ [last])
    (hl : isWhitespace last = false)
    : trim (white ++ core) = core := by
  have dropped : (white ++ core).dropWhile isWhitespace = core := by
    rw [dropWhile_append_of_pos blank, hb]
    simp [hf]
  have hr : core.reverse.dropWhile isWhitespace = core.reverse := by
    rw [ends, reverse_append]
    simp [hl]
  rw [trim, dropped, hr, reverse_reverse]

theorem trim_mark (text : List Char) : trim text <+: text.dropWhile isWhitespace := by
  have suffix := @dropWhile_suffix _ (text.dropWhile isWhitespace).reverse isWhitespace
  have flipped := reverse_prefix.mpr suffix
  rwa [reverse_reverse] at flipped

/-- Before the mark of a data line there is only white space. -/
theorem blank_before_mark (hd : dataPayload text = some data)
    : ∀ char ∈ text.take ((findPattern dataMark text).getD 0), isWhitespace char := by
  have marked : dataMark <+: trim text := by
    unfold dataPayload at hd
    split at hd
    · rename_i marked
      exact marked
    · cases hd
  have parts := @takeWhile_append_dropWhile _ isWhitespace text
  have blank (char) (hme : char ∈ text.takeWhile isWhitespace)
      : isWhitespace char = true :=
    mem_takeWhile_imp hme
  have hf
      : findPattern dataMark text = some (text.takeWhile isWhitespace).length := by
    refine (findPattern_eq_some (by decide)).mpr ⟨?_, ?_⟩
    · have here : text.drop (text.takeWhile isWhitespace).length
          = text.dropWhile isWhitespace :=
        (congrArg (List.drop _) parts.symm).trans drop_left
      rw [here]
      exact marked.trans (trim_mark text)
    · intro earlier less here
      obtain ⟨after, ha⟩ := here
      have first := congrArg head? ha
      rw [head?_drop] at first
      have inside : text[earlier]? = (text.takeWhile isWhitespace)[earlier]? :=
        (congrArg (·[earlier]?) parts.symm).trans (getElem?_append_left less)
      rw [inside, getElem?_eq_getElem less] at first
      have hm : (text.takeWhile isWhitespace)[earlier] = 'd' := (Option.some.inj first).symm
      have white := blank _ (getElem_mem less)
      rw [hm] at white
      exact absurd white (by decide)
  have before : text.take (text.takeWhile isWhitespace).length
      = text.takeWhile isWhitespace :=
    (congrArg (List.take _) parts.symm).trans take_left
  rw [hf, Option.getD_some, before]
  exact blank

section

variable {codec : JsonCodec} {publicModel : String}

/-- The payload of a rewritten line is the printed event. -/
theorem dataPayload_printed (tight : Tight printed)
    (blank : ∀ char ∈ white, isWhitespace char)
    : dataPayload (white ++ (dataMark ++ ' ' :: printed)) = some printed := by
  obtain ⟨first, rest, hb, hfi⟩ := tight.first
  obtain ⟨front, last, ends, hl⟩ := tight.last
  have outer
      : trim (white ++ (dataMark ++ ' ' :: printed)) = dataMark ++ ' ' :: printed := by
    have marked : isWhitespace 'd' = false := by decide
    have isLast : dataMark ++ ' ' :: printed = (dataMark ++ ' ' :: front) ++ [last] := by
      rw [ends]
      simp
    exact trim_of_tight white blank rfl marked isLast hl
  have space (char) (hm : char ∈ [' ']) : isWhitespace char = true := by
    rw [mem_singleton.mp hm]
    decide
  have inner : trim (' ' :: printed) = printed :=
    trim_of_tight [' '] space hb hfi ends hl
  rw [dataPayload, outer, if_pos (prefix_append _ _), drop_left, inner]

variable {line : List UInt8} {event : Document}

theorem lineEvent_eq_some
    : lineEvent codec line = some event
      ↔ ∃ text data,
          decode line = some text
          ∧ dataPayload text = some data
          ∧ codec.parse data = some event := by
  simp only [lineEvent, Option.bind_eq_some_iff]
  constructor
  · intro hf
    obtain ⟨data, ⟨text, ht, hd⟩, he⟩ := hf
    exact ⟨text, data, ht, hd, he⟩
  · intro hf
    obtain ⟨text, data, ht, hd, he⟩ := hf
    exact ⟨data, ⟨text, ht, hd⟩, he⟩

theorem rewriteLine_names (hl : codec.Lawful publicModel)
    (he : lineEvent codec (rewriteLine codec publicModel line) = some event)
    : NamesOnly publicModel event := by
  cases original : lineEvent codec line with
  | none =>
    have same : rewriteLine codec publicModel line = line := by
      unfold rewriteLine
      rw [original]
      split
      · rename_i absurdly
        cases absurdly
      · rfl
    rw [same, original] at he
    cases he
  | some source =>
    obtain ⟨text, data, ht, hd, hs⟩ := lineEvent_eq_some.mp original
    have hr := dataPayload_printed (hl.tight data source hs) (blank_before_mark hd)
    simp only [rewriteLine, ht, original] at he
    obtain ⟨shown, payload, hsh, hp, hread⟩ := lineEvent_eq_some.mp he
    rw [decode_eq_some.mpr rfl] at hsh
    cases hsh
    rw [hr] at hp
    cases hp
    exact (rewriteModelFields_names source publicModel).of_modelFields
      (hl.models data source event hs hread)

theorem rewriteLine_single (hl : codec.Lawful publicModel) (single : 10 ∉ line)
    : 10 ∉ rewriteLine codec publicModel line := by
  unfold rewriteLine
  split
  · rename_i text event ht he
    obtain ⟨_, data, _, _, hs⟩ := lineEvent_eq_some.mp he
    rw [lineFeed_mem_encode]
    have hte : '\n' ∉ text := by
      rw [← lineFeed_mem_encode, decode_eq_some.mp ht]
      exact single
    intro hm
    rcases mem_append.mp hm with before | after
    · exact hte (mem_of_mem_take before)
    · rcases mem_append.mp after with mark | printed
      · exact absurd mark (by decide)
      · rcases mem_cons.mp printed with blank | inPrint
        · exact absurd blank (by decide)
        · exact (hl.tight data event hs).single inPrint
  · exact single

variable {frame : List UInt8}

theorem lines_rewriteSseFrameModel (hl : codec.Lawful publicModel) (valid : isUtf8 frame)
    : lines (rewriteSseFrameModel codec publicModel frame)
      = (lines frame).map (rewriteLine codec publicModel) := by
  rw [rewriteSseFrameModel, if_pos valid]
  refine lines_unlines (by simp [lines_ne_nil]) ?_
  intro line hm
  obtain ⟨original, ho, rfl⟩ := mem_map.mp hm
  exact rewriteLine_single hl (not_mem_of_mem_lines ho)

theorem rewriteLine_empty : rewriteLine codec publicModel [] = [] := by
  have empty : decode [] = some [] := decode_eq_some.mpr rfl
  have none : lineEvent codec [] = none := by
    simp only [lineEvent, empty, Option.bind_some]
    rfl
  simp only [rewriteLine, empty, none]

variable {body : List UInt8}

/-- A rewritten frame still ends with a line feed. -/
theorem rewriteSseFrameModel_feed (hf : frame = body ++ [10]) (valid : isUtf8 frame)
    : ∃ rewritten, rewriteSseFrameModel codec publicModel frame = rewritten ++ [10] := by
  rw [rewriteSseFrameModel, if_pos valid, hf, lines_append, map_append]
  refine ⟨unlines ((lines body).map (rewriteLine codec publicModel)), ?_⟩
  have last : (lines []).map (rewriteLine codec publicModel) = [[]] := by
    simp [lines, rewriteLine_empty]
  rw [last]
  exact unlines_append_empty (by simp [lines_ne_nil])

variable {blocks : List (List UInt8)} {rest : List UInt8}

section

variable (feeds : ∀ block ∈ blocks, ∃ body, block = body ++ [10])

include feeds

/-- Blocks that end with a line feed have the lines of their parts. -/
theorem mem_lines_flatten (hm : line ∈ lines (blocks.flatten ++ rest))
    : (∃ block ∈ blocks, line ∈ lines block) ∨ line ∈ lines rest := by
  induction blocks with
  | nil => exact .inr hm
  | cons block more ih =>
    obtain ⟨body, hb⟩ := feeds block mem_cons_self
    rw [flatten_cons, append_assoc, hb, append_assoc, singleton_append, lines_append] at hm
    rcases mem_append.mp hm with inBody | later
    · refine .inl ⟨block, mem_cons_self, ?_⟩
      rw [hb, lines_append]
      exact mem_append_left _ inBody
    · rcases ih (fun block hi => feeds block (mem_cons_of_mem _ hi)) later
        with ⟨found, hi, inFound⟩ | inRest
      · exact .inl ⟨found, mem_cons_of_mem _ hi, inFound⟩
      · exact .inr inRest

theorem mem_lines_of_rest (hm : line ∈ lines rest) : line ∈ lines (blocks.flatten ++ rest) := by
  induction blocks with
  | nil => exact hm
  | cons block more ih =>
    obtain ⟨body, hb⟩ := feeds block mem_cons_self
    rw [flatten_cons, append_assoc, hb, append_assoc, singleton_append, lines_append]
    exact mem_append_right _ (ih fun block hi => feeds block (mem_cons_of_mem _ hi))

theorem isUtf8_of_mem_frames (valid : isUtf8 (blocks.flatten ++ rest))
    : ∀ block ∈ blocks, isUtf8 block := by
  induction blocks with
  | nil => exact fun _ absent => absurd absent not_mem_nil
  | cons block more ih =>
    obtain ⟨body, hb⟩ := feeds block mem_cons_self
    rw [flatten_cons, append_assoc, hb, append_assoc, singleton_append, isUtf8_append] at valid
    refine forall_mem_cons.mpr ⟨?_, ?_⟩
    · rw [hb]
      exact isUtf8_append.mpr ⟨valid.1, isUtf8_encode []⟩
    · exact ih (fun block hi => feeds block (mem_cons_of_mem _ hi)) valid.2

end

theorem isUtf8_of_reduceSse (reduced : reduceSse codec body = some (.ok result)) : isUtf8 body := by
  unfold reduceSse at reduced
  split at reduced
  · cases reduced
  · rename_i valid
    simpa using valid

def NamesOnlyIn (codec : JsonCodec) (publicModel : String) (bytes : List UInt8) : Prop :=
  ∀ line ∈ lines bytes, ∀ event ∈ lineEvent codec line, NamesOnly publicModel event

theorem rewrittenFrame_names (hl : codec.Lawful publicModel) (valid : isUtf8 frame)
    : NamesOnlyIn codec publicModel (rewriteSseFrameModel codec publicModel frame) := by
  intro line hm event he
  rw [lines_rewriteSseFrameModel hl valid] at hm
  obtain ⟨original, _, rfl⟩ := mem_map.mp hm
  exact rewriteLine_names hl he

/-- For every body and chunking of a stream that is forwarded successfully: all that the
client gets names only the public model exactly when the bytes after the last complete
frame do, which are forwarded without rewriting.
-/
theorem forwarded_stream_names_public_model (lawful : codec.Lawful publicModel)
    {task : StreamTask} {messages : List StreamFrame} {heldTail : List UInt8}
    (finished : (forwardFrames codec publicModel task .initial messages).1 = .finished heldTail)
    (errorFrame : ControlError → List UInt8)
    : (∀ bytes,
        .delivered bytes
          ∈ forwardOpenaiGatewayStream codec publicModel task messages none (.ok ()) errorFrame
        → NamesOnlyIn codec publicModel bytes)
      ↔ NamesOnlyIn codec publicModel
          (sseFrames (forwardFrames codec publicModel task .initial messages).2.fullBody).2 := by
  have reads :=
    @forwardFrames_reads codec publicModel task .initial messages (initial_reads codec publicModel)
  obtain ⟨ht, result, reduced⟩ := forwardFrames_finished codec publicModel finished
  generalize isLast : (forwardFrames codec publicModel task .initial messages).2 = last
    at reads ht reduced
  obtain ⟨joined, feeds⟩ := sseFrames_join last.fullBody
  have valid := isUtf8_of_mem_frames feeds (joined ▸ isUtf8_of_reduceSse reduced)
  have hfr (frame) (hm : frame ∈ (sseFrames last.fullBody).1)
      : NamesOnlyIn codec publicModel (rewriteSseFrameModel codec publicModel frame) :=
    rewrittenFrame_names lawful (valid frame hm)
  have hhe
      : ∀ block ∈ ((sseFrames last.fullBody).1.dropWhile
            (isForwarded codec publicModel)).map (rewriteSseFrameModel codec publicModel),
          ∃ body, block = body ++ [10] := by
    intro block hm
    obtain ⟨frame, hf, rfl⟩ := mem_map.mp hm
    have hi := (dropWhile_suffix _).subset hf
    obtain ⟨body, hbo⟩ := feeds frame hi
    exact rewriteSseFrameModel_feed hbo (valid frame hi)
  rw [reads.holds.held, reads.pending] at ht
  have log
      : forwardOpenaiGatewayStream codec publicModel task messages none (.ok ()) errorFrame
        = last.sent.map .delivered
          ++ .settled true :: (if heldTail = [] then [] else [.delivered heldTail]) := by
    simp only [forwardOpenaiGatewayStream, finished, isLast]
  rw [log]
  constructor
  · intro all
    by_cases empty : heldTail = []
    · have noRest : (sseFrames last.fullBody).2 = [] :=
        (append_eq_nil_iff.mp (ht.symm.trans empty)).2
      rw [noRest]
      intro line hm event he
      have hem : line = [] := by simpa [lines] using hm
      rw [hem] at he
      have none : lineEvent codec [] = none := by
        simp only [lineEvent, (decode_eq_some.mpr rfl : decode [] = some []), Option.bind_some]
        rfl
      rw [none] at he
      cases he
    · have held := all heldTail (by simp [empty])
      intro line hm event he
      refine held line ?_ event he
      rw [ht]
      exact mem_lines_of_rest hhe hm
  · intro restNamed bytes hm
    rcases mem_append.mp hm with early | late
    · rw [reads.holds.sent] at early
      obtain ⟨block, hb, same⟩ := mem_map.mp early
      cases same
      obtain ⟨frame, hf, rfl⟩ := mem_map.mp hb
      exact hfr frame (( takeWhile_prefix _).subset hf)
    · have hh : bytes = heldTail := by
        rcases mem_cons.mp late with hs | tail
        · cases hs
        · split at tail
          · exact absurd tail not_mem_nil
          · exact ClientEvent.delivered.inj (mem_singleton.mp tail)
      rw [hh, ht]
      intro line inTail event he
      rcases mem_lines_flatten hhe inTail with ⟨block, hb, inBlock⟩ | hin
      · obtain ⟨frame, hf, rfl⟩ := mem_map.mp hb
        exact hfr frame ((dropWhile_suffix _).subset hf) line inBlock event he
      · exact restNamed line hin event he

end

theorem sampleCodec_parse (he : sampleCodec.parse text = some event)
    : ∃ model ∈ ["upstream", "public"],
        sampleText model = text ∧ event = sampleCompletion model := by
  obtain ⟨model, hf, rfl⟩ := Option.map_eq_some_iff.mp he
  exact ⟨model, mem_of_find?_eq_some hf, by simpa using find?_some hf, rfl⟩

theorem sampleCodec_lawful : sampleCodec.Lawful "public" := by
  have renamed (text event) (he : sampleCodec.parse text = some event)
      : rewriteModelFields event "public" = sampleCompletion "public" := by
    obtain ⟨model, hm, _, rfl⟩ := sampleCodec_parse he
    rcases mem_cons.mp hm with rfl | hp
    · rfl
    · rw [mem_singleton.mp hp]
      rfl
  refine ⟨fun text event he => ?_, fun text event read he again => ?_⟩
  · rw [renamed text event he]
    exact ⟨⟨'{', _, rfl, by decide⟩, ⟨'{' :: _, '}', rfl, by decide⟩, by decide +kernel⟩
  · rw [renamed text event he] at again ⊢
    obtain ⟨model, hm, printed, rfl⟩ := sampleCodec_parse again
    rcases mem_cons.mp hm with rfl | hp
    · exact absurd printed (by decide +kernel)
    · rw [mem_singleton.mp hp]

/-- A complete frame is rewritten. -/
theorem sample_stream_names_public_model
    : (forwardFrames sampleCodec "public" ⟨"task", 200⟩ .initial
          (sampleStream (sampleLine ++ [10, 10]))).2.fullBody
        = sampleLine ++ [10, 10]
      ∧ ∀ bytes,
          .delivered bytes
            ∈ forwardOpenaiGatewayStream sampleCodec "public" ⟨"task", 200⟩
                (sampleStream (sampleLine ++ [10, 10])) none (.ok ()) (fun _ => [])
          → NamesOnlyIn sampleCodec "public" bytes := by
  have body
      : (forwardFrames sampleCodec "public" ⟨"task", 200⟩ .initial
          (sampleStream (sampleLine ++ [10, 10]))).2.fullBody
        = sampleLine ++ [10, 10] := by
    decide +kernel
  have finished
      : (forwardFrames sampleCodec "public" ⟨"task", 200⟩ .initial
          (sampleStream (sampleLine ++ [10, 10]))).1
        = .finished (encode (dataMark ++ ' ' :: sampleText "public") ++ [10, 10]) := by
    decide +kernel
  refine ⟨body,
    (forwarded_stream_names_public_model sampleCodec_lawful finished fun _ => []).mpr ?_⟩
  have rest : (sseFrames (sampleLine ++ [10, 10])).2 = [] := by decide +kernel
  rw [body, rest]
  intro line hm event he
  have hem : line = [] := by simpa [lines] using hm
  rw [hem] at he
  have none : (lineEvent sampleCodec []).isNone := by decide +kernel
  rw [Option.isNone_iff_eq_none.mp none] at he
  cases he

/-- A last frame without its blank line reaches the client with the upstream model. -/
theorem unterminated_frame_names_upstream_model
    : .delivered (sampleLine ++ [10])
        ∈ forwardOpenaiGatewayStream sampleCodec "public" ⟨"task", 200⟩
            (sampleStream (sampleLine ++ [10])) none (.ok ()) (fun _ => [])
      ∧ sampleLine ∈ lines (sampleLine ++ [10])
      ∧ (((lineEvent sampleCodec sampleLine).bind (·.get "response")).bind
          (textField · "model"))
        = some "upstream" := by
  decide +kernel

end AsterTeam
