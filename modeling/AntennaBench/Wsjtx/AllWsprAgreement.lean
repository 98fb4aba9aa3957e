import AntennaBench.Scenario.Session
import AntennaBench.Wsjtx.AllWspr

/-!
# Streamed and in-memory logs

However the bytes of a log arrive, within the limits the reader parses its lines, each
without all the carriage returns and line feeds at its end. The text parser leaves the
carriage returns that do not belong to the line feed, so that the two agree on a log
just where no line has such a carriage return.
-/

namespace AntennaBench

open Wire

def BufReader.content (reader : BufReader) : List UInt8 :=
  reader.buffer ++ (reader.reads.map fun read => read.toOption.getD []).flatten

theorem lineChunk_cases (available : List UInt8) :
    (10 ∉ available ∧ lineChunk available = available) ∨
      ∃ line rest, 10 ∉ line ∧ available = line ++ 10 :: rest ∧
        lineChunk available = line ++ [10] := by
  rcases exists_line 10 available with h | ⟨line, rest, hline, rfl⟩
  · refine Or.inl ⟨h, ?_⟩
    have hnone : available.findIdx? (· == 10) = none := by
      simpa [List.findIdx?_eq_none_iff] using fun x hx (h10 : x = 10) => h (h10 ▸ hx)
    simp [lineChunk, hnone]
  · refine Or.inr ⟨line, rest, hline, rfl, ?_⟩
    have hfirst : (line ++ 10 :: rest).findIdx? (· == 10) = some line.length := by
      have hnone : line.findIdx? (· == 10) = none := by
        simpa [List.findIdx?_eq_none_iff] using fun x hx (h10 : x = 10) => hline (h10 ▸ hx)
      rw [List.findIdx?_append, hnone]
      simp [List.findIdx?_cons]
    have hlist : line ++ 10 :: rest = (line ++ [10]) ++ rest := by simp
    rw [lineChunk, hfirst, Option.map_some, Option.getD_some, hlist, List.take_left']
    simp

/-- The reads that are left give bytes. -/
def BufReader.Flowing (reader : BufReader) : Prop :=
  ∀ read ∈ reader.reads, ∃ chunk, read = .ok chunk ∧ chunk ≠ []

theorem BufReader.fillBuf_flowing {reader : BufReader} (h : reader.Flowing) :
    ∃ filled, reader.fillBuf = .ok filled ∧ filled.content = reader.content ∧ filled.Flowing ∧
      (filled.buffer = [] → filled.content = []) := by
  obtain ⟨buffer, reads⟩ := reader
  unfold BufReader.fillBuf
  by_cases hempty : buffer = []
  · subst hempty
    cases reads with
    | nil => exact ⟨_, rfl, rfl, h, fun _ => rfl⟩
    | cons read reads =>
      obtain ⟨chunk, rfl, hchunk⟩ := h read List.mem_cons_self
      refine ⟨⟨chunk, reads⟩, rfl, ?_, fun read hread => h read (List.mem_cons_of_mem _ hread),
        fun hnone => absurd hnone hchunk⟩
      simp [BufReader.content, Except.toOption]
  · refine ⟨⟨buffer, reads⟩, ?_, rfl, h, fun hnone => absurd hnone hempty⟩
    simp [hempty]

theorem BufReader.content_consume (reader : BufReader) (amount : ℕ) :
    reader.content = reader.buffer.take amount ++ (reader.consume amount).content := by
  simp [BufReader.content, BufReader.consume, ← List.append_assoc]

/-- The counters of the stream leave room for all that is to come. -/
structure Within (limits : OfflineLimits) (reader : BufReader) (stream : LogStream) : Prop where
  flowing : reader.Flowing
  line : 10 ∉ stream.currentLine
  total : stream.totalBytes + reader.content.length ≤ limits.offlineSourceBytes
  lines : ∀ line ∈ splitInclusive 10 (stream.currentLine ++ reader.content),
    line.length ≤ limits.offlineLineBytes
  nonblank : stream.nonblankLines +
    ((splitInclusive 10 (stream.currentLine ++ reader.content)).map streamedText).countP
      (!isBlank ·) ≤ limits.offlineNonblankLines

/-- What the stream will have parsed of all that is to come. -/
def remaining (env : WsprLiveEnv) (reader : BufReader) (stream : LogStream) : ParsedAllWsprText :=
  parseAllWsprLines env
    ((splitInclusive 10 (stream.currentLine ++ reader.content)).map streamedText)
    stream.physicalLines stream.parsed

variable (env : WsprLiveEnv) (source : String) {limits : OfflineLimits}

/-- A line within the limits is counted, and parsed unless it is blank. -/
theorem processStreamedLine_within {stream : LogStream} {rest : List String}
    (h : stream.nonblankLines + (streamedText stream.currentLine :: rest).countP (!isBlank ·) ≤
      limits.offlineNonblankLines) :
    ∃ ended, stream.processStreamedLine env source limits = .ok ended ∧
      ended.totalBytes = stream.totalBytes ∧
      ended.nonblankLines + rest.countP (!isBlank ·) ≤ limits.offlineNonblankLines ∧
      parseAllWsprLines env rest ended.physicalLines ended.parsed =
        parseAllWsprLines env (streamedText stream.currentLine :: rest) stream.physicalLines
          stream.parsed := by
  rw [List.countP_cons] at h
  simp only [LogStream.processStreamedLine]
  by_cases hblank : isBlank (streamedText stream.currentLine) = true
  · rw [if_pos hblank]
    refine ⟨_, rfl, rfl, ?_, ?_⟩
    · dsimp only
      omega
    · rw [parseAllWsprLines, if_pos hblank]
  · have hcount : (!isBlank (streamedText stream.currentLine)) = true := by simpa using hblank
    rw [if_pos hcount] at h
    have hroom : ¬limits.offlineNonblankLines < stream.nonblankLines + 1 := by omega
    rw [if_neg hblank, if_neg hroom]
    refine ⟨_, rfl, rfl, ?_, ?_⟩
    · dsimp only
      omega
    · rw [parseAllWsprLines, if_neg hblank]

/-- The end of the source ends the line that has begun. -/
theorem finish_within {stream : LogStream} (hline : 10 ∉ stream.currentLine)
    (h : stream.nonblankLines +
      ((splitInclusive 10 stream.currentLine).map streamedText).countP (!isBlank ·) ≤
        limits.offlineNonblankLines) :
    stream.finish env source limits = .complete
      (parseAllWsprLines env ((splitInclusive 10 stream.currentLine).map streamedText)
        stream.physicalLines stream.parsed) := by
  unfold LogStream.finish
  by_cases hempty : stream.currentLine = []
  · rw [if_pos (List.isEmpty_iff.mpr hempty), hempty]
    rfl
  · rw [splitInclusive_open hline hempty, List.map_singleton] at h ⊢
    obtain ⟨ended, hended, -, -, hparsed⟩ :=
      processStreamedLine_within env source h
    rw [if_neg (by simpa using hempty), hended, ← hparsed]
    rfl

theorem accept_within {stream : LogStream} {chunk : List UInt8}
    (htotal : stream.totalBytes + chunk.length ≤ limits.offlineSourceBytes)
    (hline : stream.currentLine.length + chunk.length ≤ limits.offlineLineBytes) :
    ∃ accepted, stream.accept source limits chunk = .ok accepted ∧
      accepted.currentLine = stream.currentLine ++ chunk ∧
      accepted.totalBytes ≤ stream.totalBytes + chunk.length ∧
      accepted.nonblankLines = stream.nonblankLines ∧
      accepted.physicalLines = stream.physicalLines ∧ accepted.parsed = stream.parsed := by
  have hsaturated := min_le_left (stream.totalBytes + chunk.length) (2 ^ 64 - 1)
  simp only [LogStream.accept]
  rw [if_neg (not_lt.mpr (hsaturated.trans htotal)), if_neg (not_lt.mpr hline)]
  exact ⟨_, rfl, rfl, hsaturated, rfl, rfl, rfl⟩

/-- A buffer without a line feed is added to the line. -/
theorem accept_open {filled : BufReader} {stream : LogStream} (h : Within limits filled stream)
    (hbuffer : filled.buffer ≠ []) (hclean : 10 ∉ filled.buffer) :
    ∃ accepted, stream.accept source limits filled.buffer = .ok accepted ∧
      Within limits (filled.consume filled.buffer.length) accepted ∧
      remaining env (filled.consume filled.buffer.length) accepted =
        remaining env filled stream := by
  obtain ⟨hflowing, hline, htotal, hlines, hnonblank⟩ := h
  have hsplit : filled.content =
      filled.buffer ++ (filled.consume filled.buffer.length).content := by
    simpa using filled.content_consume filled.buffer.length
  have hopen : 10 ∉ stream.currentLine ++ filled.buffer := by simp [hline, hclean]
  obtain ⟨first, hfirst, hlength⟩ := exists_first_line hopen (by simp [hbuffer])
    (filled.consume filled.buffer.length).content
  rw [List.append_assoc, ← hsplit] at hfirst
  have hfits := hlines first hfirst
  rw [List.length_append] at hlength
  rw [hsplit, List.length_append] at htotal
  have htotalChunk : stream.totalBytes + filled.buffer.length ≤ limits.offlineSourceBytes := by
    omega
  have hlineChunk : stream.currentLine.length + filled.buffer.length ≤
      limits.offlineLineBytes := by omega
  obtain ⟨accepted, haccept, hcurrent, hcount, hsame, hphysical, hparsed⟩ :=
    accept_within source htotalChunk hlineChunk
  refine ⟨accepted, haccept, ⟨hflowing, ?_, ?_, ?_, ?_⟩, ?_⟩
  · rw [hcurrent]
    exact hopen
  · omega
  · rw [hcurrent, List.append_assoc, ← hsplit]
    exact hlines
  · rw [hcurrent, hsame, List.append_assoc, ← hsplit]
    exact hnonblank
  · rw [remaining, remaining, hcurrent, hphysical, hparsed, List.append_assoc, ← hsplit]

/-- A buffer with a line feed ends the line and begins the next. -/
theorem accept_closed {filled : BufReader} {stream : LogStream} (h : Within limits filled stream)
    {line later : List UInt8} (hclean : 10 ∉ line) (hbuffer : filled.buffer = line ++ 10 :: later) :
    ∃ accepted ended, stream.accept source limits (line ++ [10]) = .ok accepted ∧
      accepted.endLine env source limits = .ok ended ∧
      Within limits (filled.consume (line ++ [10]).length) ended ∧
      remaining env (filled.consume (line ++ [10]).length) ended = remaining env filled stream := by
  obtain ⟨hflowing, hline, htotal, hlines, hnonblank⟩ := h
  set rest := filled.consume (line ++ [10]).length with hrest
  have hsplit : filled.content = line ++ [10] ++ rest.content := by
    have htake : filled.buffer.take (line ++ [10]).length = line ++ [10] := by
      have hlist : line ++ 10 :: later = (line ++ [10]) ++ later := by simp
      rw [hbuffer, hlist, List.take_left]
    rw [← htake, hrest, ← BufReader.content_consume]
  have hclosed : 10 ∉ stream.currentLine ++ line := by simp [hline, hclean]
  have hcut : splitInclusive 10 (stream.currentLine ++ filled.content) =
      (stream.currentLine ++ (line ++ [10])) :: splitInclusive 10 rest.content := by
    rw [hsplit, ← List.append_assoc, ← List.append_assoc, List.append_assoc _ [10],
      List.singleton_append, splitInclusive_line hclosed, List.append_assoc]
  rw [hcut] at hlines hnonblank
  have hfits := hlines _ List.mem_cons_self
  rw [List.length_append] at hfits
  rw [hsplit, List.length_append] at htotal
  have htotalChunk : stream.totalBytes + (line ++ [10]).length ≤ limits.offlineSourceBytes := by
    omega
  obtain ⟨accepted, haccept, hcurrent, hcount, hsame, hphysical, hparsed⟩ :=
    accept_within source htotalChunk hfits
  rw [List.map_cons, ← hcurrent, ← hsame] at hnonblank
  obtain ⟨ended, hended, htotalEnded, hnonblankEnded, hparsedEnded⟩ :=
    processStreamedLine_within env source hnonblank
  have hend : accepted.endLine env source limits = .ok { ended with currentLine := [] } := by
    rw [LogStream.endLine, hended]
    rfl
  refine ⟨accepted, _, haccept, hend, ⟨hflowing, List.not_mem_nil, ?_, ?_, hnonblankEnded⟩, ?_⟩
  · have hleft : ended.totalBytes + rest.content.length ≤ limits.offlineSourceBytes := by
      omega
    exact hleft
  · exact fun line hline => hlines line (List.mem_cons_of_mem _ hline)
  · rw [remaining, remaining, hcut, List.map_cons, ← hcurrent, ← hphysical, ← hparsed]
    exact hparsedEnded

/-- One turn of the loop returns what is remaining, or leaves it to the next turn. -/
theorem step_within {reader : BufReader} {stream : LogStream} (h : Within limits reader stream) :
    stream.step env source limits false reader =
        .returned (.ok (.complete (remaining env reader stream))) ∨
      ∃ rest next, stream.step env source limits false reader = .more rest next ∧
        Within limits rest next ∧ remaining env rest next = remaining env reader stream := by
  obtain ⟨filled, hfill, hcontent, hflowing, hend⟩ := BufReader.fillBuf_flowing h.flowing
  have hfilled : Within limits filled stream := by
    obtain ⟨-, hline, htotal, hlines, hnonblank⟩ := h
    rw [← hcontent] at htotal hlines hnonblank
    exact ⟨hflowing, hline, htotal, hlines, hnonblank⟩
  have hremaining : remaining env reader stream = remaining env filled stream := by
    rw [remaining, remaining, hcontent]
  simp only [hremaining, LogStream.step, Bool.false_eq_true, if_false, hfill]
  by_cases hempty : filled.buffer = []
  · have hnonblank := hfilled.nonblank
    unfold remaining
    rw [hend hempty, List.append_nil] at hnonblank ⊢
    rw [if_pos hempty, finish_within env source hfilled.line hnonblank]
    exact Or.inl rfl
  rw [if_neg hempty]
  right
  rcases lineChunk_cases filled.buffer with
    ⟨hclean, hchunk⟩ | ⟨line, later, hclean, hbuffer, hchunk⟩
  · obtain ⟨accepted, haccept, hnext, hsame⟩ := accept_open env source hfilled hempty hclean
    have hlast : ¬filled.buffer.getLast? = some 10 := fun h => hclean (List.mem_of_getLast? h)
    rw [hchunk, haccept]
    simp only [if_neg hlast]
    exact ⟨_, _, rfl, hnext, hsame⟩
  · obtain ⟨accepted, ended, haccept, hended, hnext, hsame⟩ :=
      accept_closed env source hfilled hclean hbuffer
    rw [hchunk, haccept]
    simp only [List.getLast?_concat, if_true, hended]
    exact ⟨_, _, rfl, hnext, hsame⟩

/-- The reader parses every line that is to come. -/
theorem readAllWspr_within {cancelled : ℕ → Bool} (hrunning : ∀ look, cancelled look = false)
    (look : ℕ) {reader : BufReader} {stream : LogStream} (h : Within limits reader stream) :
    readAllWspr env source limits cancelled look reader stream =
      .ok (.complete (remaining env reader stream)) := by
  induction hpending : reader.pending using Nat.strongRecOn generalizing look reader stream with
  | ind pending ih =>
    rw [readAllWspr, hrunning]
    rcases step_within env source h with hstep | ⟨rest, next, hstep, hnext, hsame⟩
    · rw [hstep]
    · rw [hstep]
      have hless := LogStream.step_pending hstep
      rw [← hsame]
      exact ih rest.pending (hpending ▸ hless) (look + 1) hnext rfl

variable {env source}

theorem utf8Bytes_eq (text : String) :
    utf8Bytes text = text.toList.flatMap String.utf8EncodeChar := by
  unfold utf8Bytes
  rw [String.toUTF8_eq_toByteArray, ← String.utf8Encode_toList, List.utf8Encode]
  simp

theorem uint8_toNat_ofNat {n : ℕ} (h : n < 256) : (UInt8.ofNat n).toNat = n := by
  rw [UInt8.toNat_ofNat']
  exact Nat.mod_eq_of_lt h

theorem lineFeed_ne_ofNat {n : ℕ} (hlow : 10 < n) (hhigh : n < 256) :
    (10 : UInt8) ≠ UInt8.ofNat n := by
  intro h
  have hnat := congrArg UInt8.toNat h
  rw [uint8_toNat_ofNat hhigh] at hnat
  have hten : (10 : UInt8).toNat = 10 := rfl
  omega

theorem lineFeed_not_mem_utf8EncodeChar {c : Char} (h : c ≠ '\n') :
    10 ∉ String.utf8EncodeChar c := by
  unfold String.utf8EncodeChar
  dsimp only
  split_ifs with hone htwo hthree
  · rw [List.mem_singleton]
    intro hbyte
    have hnat := congrArg UInt8.toNat hbyte
    have hten : (10 : UInt8).toNat = 10 := rfl
    rw [uint8_toNat_ofNat (by omega), hten] at hnat
    exact h (Char.ext (UInt32.toNat_inj.mp hnat.symm))
  · simp only [List.mem_cons, List.not_mem_nil, or_false, not_or]
    exact ⟨lineFeed_ne_ofNat (by omega) (by omega), lineFeed_ne_ofNat (by omega) (by omega)⟩
  · simp only [List.mem_cons, List.not_mem_nil, or_false, not_or]
    exact ⟨lineFeed_ne_ofNat (by omega) (by omega), lineFeed_ne_ofNat (by omega) (by omega),
      lineFeed_ne_ofNat (by omega) (by omega)⟩
  · simp only [List.mem_cons, List.not_mem_nil, or_false, not_or]
    exact ⟨lineFeed_ne_ofNat (by omega) (by omega), lineFeed_ne_ofNat (by omega) (by omega),
      lineFeed_ne_ofNat (by omega) (by omega), lineFeed_ne_ofNat (by omega) (by omega)⟩

theorem utf8EncodeChar_ne_nil (c : Char) : String.utf8EncodeChar c ≠ [] := by
  unfold String.utf8EncodeChar
  dsimp only
  split_ifs <;> simp

/-- The bytes have the lines of the text. -/
theorem splitInclusive_utf8Bytes (text : String) :
    splitInclusive 10 (utf8Bytes text) =
      (splitInclusive '\n' text.toList).map fun line => line.flatMap String.utf8EncodeChar := by
  rw [utf8Bytes_eq]
  have hmark : String.utf8EncodeChar '\n' = [10] := rfl
  exact splitInclusive_flatMap hmark (fun _ => lineFeed_not_mem_utf8EncodeChar)
    utf8EncodeChar_ne_nil text.toList

theorem fromUtf8Lossy_encoded (line : List Char) :
    fromUtf8Lossy (line.flatMap String.utf8EncodeChar) = String.ofList line := by
  have hbytes : line.flatMap String.utf8EncodeChar = utf8Bytes (String.ofList line) := by
    rw [utf8Bytes_eq, String.toList_ofList]
  rw [fromUtf8Lossy, Cursor.fromUTF8?_eq_some.mpr hbytes, Option.getD_some]

theorem streamedText_encoded (line : List Char) :
    streamedText (line.flatMap String.utf8EncodeChar) = String.ofList (trimLineEnds line) := by
  rw [streamedText, fromUtf8Lossy_encoded, String.toList_ofList]

/-- The text of a log, and the limits of the reader. -/
structure LogFits (limits : OfflineLimits) (text : String) : Prop where
  source : (utf8Bytes text).length ≤ limits.offlineSourceBytes
  lines : ∀ line ∈ splitInclusive '\n' text.toList,
    (line.flatMap String.utf8EncodeChar).length ≤ limits.offlineLineBytes
  nonblank : (splitInclusive '\n' text.toList).countP (!·.all isWhitespace) ≤
    limits.offlineNonblankLines

theorem dropWhile_reverse_dropWhile {α : Type} (p : α → Bool) (list : List α) :
    ((list.dropWhile p).reverse.dropWhile p) = [] ↔ ∀ a ∈ list, p a = true := by
  rw [List.dropWhile_eq_nil_iff]
  constructor
  · intro h
    have hnone : list.dropWhile p = [] := by
      by_contra hne
      have hhead := List.head_dropWhile_not p hne
      rw [h _ (List.mem_reverse.mpr (List.head_mem hne))] at hhead
      cases hhead
    exact List.dropWhile_eq_nil_iff.mp hnone
  · intro h a ha
    exact h a ((List.dropWhile_suffix p).mem (List.mem_reverse.mp ha))

theorem isBlank_eq (value : String) : isBlank value = value.toList.all isWhitespace := by
  rw [Bool.eq_iff_iff, isBlank, String.isEmpty_iff, ← String.toList_eq_nil_iff, trim,
    String.toList_ofList, List.reverse_eq_nil_iff, dropWhile_reverse_dropWhile, List.all_eq_true]

/-- A carriage return at the end of a line that is not part of the line end. -/
def StrayReturn (line : List Char) : Prop :=
  ['\r', '\r', '\n'] <:+ line ∨ ['\r'] <:+ line

instance (line : List Char) : Decidable (StrayReturn line) :=
  inferInstanceAs (Decidable (_ ∨ _))

/-- A line of a text ends with a line feed, or has none. -/
theorem mem_splitInclusive {α : Type} [DecidableEq α] {separator : α} {list line : List α}
    (h : line ∈ splitInclusive separator list) :
    (∃ body, separator ∉ body ∧ line = body ++ [separator]) ∨ (separator ∉ line ∧ line ≠ []) := by
  induction list using lines_induction separator with
  | nil => cases h
  | last last hlast hempty =>
    rw [splitInclusive_open hlast hempty, List.mem_singleton] at h
    subst h
    exact Or.inr ⟨hlast, hempty⟩
  | line body rest hbody ih =>
    rw [splitInclusive_line hbody, List.mem_cons] at h
    rcases h with rfl | h
    · exact Or.inl ⟨body, hbody, rfl⟩
    · exact ih h

theorem trimLineEnds_eq_self {line : List Char} (hclean : '\n' ∉ line) :
    trimLineEnds line = line ↔ ¬['\r'] <:+ line := by
  rw [trimLineEnds, List.rdropWhile_eq_self_iff]
  constructor
  · rintro h ⟨body, rfl⟩
    have hlast := h (by simp)
    simp at hlast
  · intro h hne hlast
    have hsplit := List.dropLast_concat_getLast hne
    have hmem := List.getLast_mem hne
    rw [Bool.or_eq_true, beq_iff_eq, beq_iff_eq] at hlast
    rcases hlast with hlast | hlast
    · exact h ⟨line.dropLast, by rw [← hlast, hsplit]⟩
    · exact hclean (hlast ▸ hmem)

theorem trimLineEnds_concat (line : List Char) (c : Char) (hc : c = '\r' ∨ c = '\n') :
    trimLineEnds (line ++ [c]) = trimLineEnds line := by
  unfold trimLineEnds
  rcases hc with rfl | rfl
  · exact List.rdropWhile_concat_pos _ _ _ rfl
  · exact List.rdropWhile_concat_pos _ _ _ rfl

theorem concat_suffix_concat {α : Type} {a b : α} {left right : List α} :
    left ++ [a] <:+ right ++ [b] ↔ a = b ∧ left <:+ right := by
  rw [← List.reverse_prefix, List.reverse_append, List.reverse_append, List.reverse_singleton,
    List.reverse_singleton, List.singleton_append, List.singleton_append, List.cons_prefix_cons,
    List.reverse_prefix]

theorem strayReturn_ended {body : List Char} :
    StrayReturn (body ++ ['\n']) ↔ ['\r', '\r'] <:+ body := by
  have hlong : ['\r', '\r', '\n'] <:+ body ++ ['\n'] ↔ ['\r', '\r'] <:+ body := by
    rw [show ['\r', '\r', '\n'] = ['\r', '\r'] ++ ['\n'] from rfl, concat_suffix_concat]
    exact and_iff_right rfl
  have hshort : ¬['\r'] <:+ body ++ ['\n'] := by
    rw [show ['\r'] = [] ++ ['\r'] from rfl, concat_suffix_concat]
    exact fun h => absurd h.1 (by decide)
  rw [StrayReturn, hlong, or_iff_left hshort]

theorem strayReturn_open {line : List Char} (hclean : '\n' ∉ line) :
    StrayReturn line ↔ ['\r'] <:+ line :=
  or_iff_right fun h => hclean (h.subset (by simp))

/-- The two ways to take the end off a line differ at a stray carriage return. -/
theorem stripTerminator_eq_trimLineEnds {text line : List Char}
    (h : line ∈ splitInclusive '\n' text) :
    stripTerminator line = trimLineEnds line ↔ ¬StrayReturn line := by
  rcases mem_splitInclusive h with ⟨body, hbody, rfl⟩ | ⟨hclean, hne⟩
  · rw [strayReturn_ended, trimLineEnds_concat _ _ (Or.inr rfl), stripTerminator,
      List.getLast?_concat, if_pos rfl, List.dropLast_concat]
    by_cases hreturn : body.getLast? = some '\r'
    · obtain ⟨inner, rfl⟩ := List.getLast?_eq_some_iff.mp hreturn
      have hinner : '\n' ∉ inner := fun hmem => hbody (by simp [hmem])
      rw [if_pos hreturn, List.dropLast_concat, trimLineEnds_concat _ _ (Or.inl rfl), eq_comm,
        trimLineEnds_eq_self hinner, show ['\r', '\r'] = ['\r'] ++ ['\r'] from rfl,
        concat_suffix_concat, and_iff_right rfl]
    · have hone : ¬['\r'] <:+ body := by
        rintro ⟨inner, rfl⟩
        exact hreturn List.getLast?_concat
      have htwo : ¬['\r', '\r'] <:+ body := by
        rintro ⟨inner, rfl⟩
        exact hone ⟨inner ++ ['\r'], by simp⟩
      rw [if_neg hreturn, eq_comm, trimLineEnds_eq_self hbody]
      exact iff_of_true hone htwo
  · have hlast : line.getLast? ≠ some '\n' := fun hlast => hclean (List.mem_of_getLast? hlast)
    rw [stripTerminator, if_neg hlast, eq_comm, trimLineEnds_eq_self hclean,
      strayReturn_open hclean]

theorem isWhitespace_lineEnds (c : Char) (hc : (c == '\r' || c == '\n') = true) :
    isWhitespace c = true := by
  rw [Bool.or_eq_true, beq_iff_eq, beq_iff_eq] at hc
  rcases hc with rfl | rfl <;> rfl

/-- A line is blank whatever is taken off its end. -/
theorem isBlank_trimLineEnds (line : List Char) :
    isBlank (String.ofList (trimLineEnds line)) = line.all isWhitespace := by
  rw [isBlank_eq, String.toList_ofList, trimLineEnds]
  induction line using List.reverseRecOn with
  | nil => rfl
  | append_singleton line c ih =>
    by_cases hc : (c == '\r' || c == '\n') = true
    · have hdropped := List.rdropWhile_concat_pos (fun c => c == '\r' || c == '\n') line c hc
      rw [hdropped, ih, List.all_append, List.all_cons, isWhitespace_lineEnds c hc]
      simp
    · have hkept := List.rdropWhile_concat_neg (fun c => c == '\r' || c == '\n') line c hc
      rw [hkept]

theorem isBlank_stripTerminator (line : List Char) :
    isBlank (String.ofList (stripTerminator line)) = line.all isWhitespace := by
  rw [isBlank_eq, String.toList_ofList, stripTerminator]
  split_ifs with hfeed hreturn
  · obtain ⟨body, rfl⟩ := List.getLast?_eq_some_iff.mp hfeed
    rw [List.dropLast_concat] at hreturn ⊢
    obtain ⟨inner, rfl⟩ := List.getLast?_eq_some_iff.mp hreturn
    rw [List.dropLast_concat]
    simp [isWhitespace_lineEnds]
  · obtain ⟨body, rfl⟩ := List.getLast?_eq_some_iff.mp hfeed
    rw [List.dropLast_concat]
    simp [isWhitespace_lineEnds]
  · rfl

/-- The number and the text of each line that was parsed. -/
def ParsedAllWsprText.rawLines (parsed : ParsedAllWsprText) : List (ℕ × String) :=
  (parsed.decodes.map fun decode => (decode.lineNumber, decode.rawLine)) ++
    parsed.issues.map fun issue => (issue.lineNumber, issue.rawLine)

theorem parseAllWsprFields_line {lineNumber : ℕ} {line : String} {fields : List String}
    {decode : AllWsprDecode}
    (h : parseAllWsprFields env lineNumber line fields = .ok decode) :
    decode.lineNumber = lineNumber ∧ decode.rawLine = line := by
  simp only [parseAllWsprFields, bind_eq_ok, pure_eq_ok] at h
  obtain ⟨_, _, _, _, _, _, _, _, _, _, _, _, _, _, _, _, _, _, h⟩ := h
  subst h
  exact ⟨rfl, rfl⟩

theorem parseAllWsprLine_ok {lineNumber : ℕ} {line : String} {decode : AllWsprDecode}
    (h : parseAllWsprLine env lineNumber line = .ok decode) :
    (decode.lineNumber, decode.rawLine) = (lineNumber, line) := by
  simp only [parseAllWsprLine, mapError_eq_ok] at h
  split_ifs at h
  obtain ⟨hnumber, hline⟩ := parseAllWsprFields_line h
  rw [hnumber, hline]

theorem parseAllWsprLine_error {lineNumber : ℕ} {line : String} {issue : AllWsprLineIssue}
    (h : parseAllWsprLine env lineNumber line = .error issue) :
    (issue.lineNumber, issue.rawLine) = (lineNumber, line) := by
  simp only [parseAllWsprLine] at h
  generalize (if (splitWhitespace line).length < 9 then _ else _ :
    Except AllWsprLineIssueKind AllWsprDecode) = parsed at h
  cases parsed with
  | ok decode => cases h
  | error kind =>
    injection h with h
    subst h
    rfl

/-- A line that was parsed is a decode or an issue with its number and its text. -/
theorem mem_rawLines_push {parsed : ParsedAllWsprText} {lineNumber : ℕ} {line : String}
    {entry : ℕ × String} :
    entry ∈ (parsed.push (parseAllWsprLine env lineNumber line)).rawLines ↔
      entry ∈ parsed.rawLines ∨ entry = (lineNumber, line) := by
  cases hparse : parseAllWsprLine env lineNumber line with
  | ok decode =>
    have hentry := parseAllWsprLine_ok hparse
    simp only [ParsedAllWsprText.rawLines, ParsedAllWsprText.push, List.map_append, List.map_cons,
      List.map_nil, hentry, List.mem_append, List.mem_singleton]
    exact or_right_comm
  | error issue =>
    have hentry := parseAllWsprLine_error hparse
    simp only [ParsedAllWsprText.rawLines, ParsedAllWsprText.push, List.map_append, List.map_cons,
      List.map_nil, hentry, List.mem_append, List.mem_singleton]
    exact or_assoc.symm

/-- The lines that were parsed are those that are not blank, by their place. -/
theorem mem_rawLines_parseAllWsprLines {texts : List String} {index : ℕ}
    {parsed : ParsedAllWsprText} {entry : ℕ × String} :
    entry ∈ (parseAllWsprLines env texts index parsed).rawLines ↔
      entry ∈ parsed.rawLines ∨ ∃ place text, texts[place]? = some text ∧ isBlank text = false ∧
        entry = (index + place + 1, text) := by
  induction texts generalizing index parsed with
  | nil => simp [parseAllWsprLines]
  | cons text rest ih =>
    have hplaces : (∃ place other, (text :: rest)[place]? = some other ∧ isBlank other = false ∧
          entry = (index + place + 1, other)) ↔
        (isBlank text = false ∧ entry = (index + 1, text)) ∨
          ∃ place other, rest[place]? = some other ∧ isBlank other = false ∧
            entry = (index + 1 + place + 1, other) := by
      constructor
      · rintro ⟨place, other, hplace, hblank, rfl⟩
        cases place with
        | zero =>
          rw [List.getElem?_cons_zero] at hplace
          cases hplace
          exact Or.inl ⟨hblank, rfl⟩
        | succ place =>
          rw [List.getElem?_cons_succ] at hplace
          exact Or.inr ⟨place, other, hplace, hblank, by rw [Nat.add_right_comm index 1]; rfl⟩
      · rintro (⟨hblank, rfl⟩ | ⟨place, other, hplace, hblank, rfl⟩)
        · exact ⟨0, text, rfl, hblank, rfl⟩
        · exact ⟨place + 1, other, hplace, hblank, by rw [Nat.add_right_comm index 1]; rfl⟩
    rw [hplaces, parseAllWsprLines]
    cases hblank : isBlank text with
    | true =>
      rw [if_pos rfl, ih]
      simp
    | false =>
      rw [if_neg Bool.false_ne_true, ih, mem_rawLines_push, or_assoc]
      simp

/-- Two readings of the lines that agree on what is blank parse to the same just where they
agree on what is not. -/
theorem parseAllWsprLines_eq_iff {lines : List (List Char)} {f g : List Char → String}
    (hblank : ∀ line, isBlank (f line) = isBlank (g line)) {index : ℕ}
    {parsed : ParsedAllWsprText} (hfresh : ∀ entry ∈ parsed.rawLines, entry.1 ≤ index) :
    parseAllWsprLines env (lines.map f) index parsed =
        parseAllWsprLines env (lines.map g) index parsed ↔
      ∀ line ∈ lines, isBlank (f line) = false → f line = g line := by
  constructor
  · intro hsame line hline hparsed
    obtain ⟨place, hplace⟩ := List.mem_iff_getElem?.mp hline
    have hentry : (index + place + 1, f line) ∈
        (parseAllWsprLines env (lines.map f) index parsed).rawLines := by
      refine mem_rawLines_parseAllWsprLines.mpr (Or.inr ⟨place, f line, ?_, hparsed, rfl⟩)
      rw [List.getElem?_map, hplace]
      rfl
    rw [hsame, mem_rawLines_parseAllWsprLines] at hentry
    rcases hentry with hold | ⟨other, text, hother, -, hentry⟩
    · have hle := hfresh _ hold
      dsimp only at hle
      omega
    · obtain ⟨hnumber, htext⟩ := Prod.mk.inj hentry
      have hsamePlace : other = place := by omega
      rw [hsamePlace, List.getElem?_map, hplace] at hother
      exact htext.trans (Option.some.inj hother).symm
  · intro hsame
    clear hfresh
    induction lines generalizing index parsed with
    | nil => rfl
    | cons line rest ih =>
      have hrest := fun other hother => hsame other (List.mem_cons_of_mem _ hother)
      rw [List.map_cons, List.map_cons, parseAllWsprLines, parseAllWsprLines, ← hblank line]
      by_cases hline : isBlank (f line) = true
      · rw [if_pos hline, if_pos hline]
        exact ih hrest
      · rw [if_neg hline, if_neg hline,
          ← hsame line List.mem_cons_self (Bool.not_eq_true _ ▸ hline)]
        exact ih hrest

theorem within_start {text : String} {chunks : List (List UInt8)} (hchunks : [] ∉ chunks)
    (hcontent : chunks.flatten = utf8Bytes text) (hfits : LogFits limits text) :
    Within limits ⟨[], chunks.map .ok⟩ .start := by
  have hbytes : BufReader.content ⟨[], chunks.map .ok⟩ = utf8Bytes text := by
    simp [BufReader.content, Except.toOption, Function.comp_def, hcontent]
  refine ⟨?_, List.not_mem_nil, ?_, ?_, ?_⟩
  · intro read hread
    obtain ⟨chunk, hchunk, rfl⟩ := List.mem_map.mp hread
    exact ⟨chunk, rfl, fun hempty => hchunks (hempty ▸ hchunk)⟩
  · rw [hbytes]
    simpa [LogStream.start] using hfits.source
  · rw [hbytes, LogStream.start, List.nil_append, splitInclusive_utf8Bytes]
    intro line hline
    obtain ⟨original, horiginal, rfl⟩ := List.mem_map.mp hline
    exact hfits.lines original horiginal
  · have hcount := hfits.nonblank
    rw [hbytes, LogStream.start, List.nil_append, splitInclusive_utf8Bytes, List.map_map,
      List.countP_map, Nat.zero_add]
    simpa [Function.comp_def, streamedText_encoded, isBlank_trimLineEnds] using hcount

/-- Within the limits the reader parses every line of the text, whatever the reads are. -/
theorem parseAllWsprReader_complete {cancelled : ℕ → Bool} {text : String}
    {chunks : List (List UInt8)} (hrunning : ∀ look, cancelled look = false)
    (hchunks : [] ∉ chunks) (hcontent : chunks.flatten = utf8Bytes text)
    (hfits : LogFits limits text) :
    parseAllWsprReader env source limits cancelled (chunks.map .ok) =
      .ok (.complete (parseAllWsprLines env
        ((splitInclusive '\n' text.toList).map fun line => String.ofList (trimLineEnds line))
        0 ⟨[], []⟩)) := by
  have hbytes : BufReader.content ⟨[], chunks.map .ok⟩ = utf8Bytes text := by
    simp [BufReader.content, Except.toOption, Function.comp_def, hcontent]
  have hwithin := within_start hchunks hcontent hfits
  rw [parseAllWsprReader, readAllWspr_within env source hrunning 0 hwithin, remaining, hbytes,
    LogStream.start, List.nil_append, splitInclusive_utf8Bytes, List.map_map]
  simp only [Function.comp_def, streamedText_encoded]

/-- The streamed parse of a log is that of its text just where no line that is not blank
has a stray carriage return. -/
theorem parseAllWsprReader_eq_text_iff {cancelled : ℕ → Bool} {text : String}
    {chunks : List (List UInt8)} (hrunning : ∀ look, cancelled look = false)
    (hchunks : [] ∉ chunks) (hcontent : chunks.flatten = utf8Bytes text)
    (hfits : LogFits limits text) :
    parseAllWsprReader env source limits cancelled (chunks.map .ok) =
        .ok (.complete (parseAllWsprText env text)) ↔
      ∀ line ∈ splitInclusive '\n' text.toList, line.all isWhitespace = false →
        ¬StrayReturn line := by
  have hblank : ∀ line, isBlank (String.ofList (trimLineEnds line)) =
      isBlank (String.ofList (stripTerminator line)) := by
    intro line
    rw [isBlank_trimLineEnds, isBlank_stripTerminator]
  rw [parseAllWsprReader_complete hrunning hchunks hcontent hfits, parseAllWsprText, lines,
    Except.ok.injEq, AllWsprStreamOutcome.complete.injEq,
    parseAllWsprLines_eq_iff hblank (by nofun)]
  apply forall₂_congr
  intro line hline
  rw [isBlank_trimLineEnds, String.ofList_inj, ← stripTerminator_eq_trimLineEnds hline,
    eq_comm (a := trimLineEnds line)]

namespace Scenario

/-- Libraries that are not asked for more than a time. -/
def listeningEnv : WsprLiveEnv where
  fromSlice _ := .error ""
  fromStr _ := none
  jsonText _ := ""
  sha256Hex text := text
  parseRfc3339 _ := none
  parseNaive _ := none
  parseDateTime _ := none
  rfc3339 _ := "2026-05-01T12:00:00Z"
  powf _ _ := .finite 1
  packageVersion := "0.1.0"

/-- A log with a line that ends in a carriage return and a line feed, in two reads. -/
theorem returnLog_agrees :
    parseAllWsprReader listeningEnv "ALL_WSPR.TXT" offlineLimits (fun _ => false)
        ([utf8Bytes "x\r", utf8Bytes "\ny"].map .ok) =
      .ok (.complete (parseAllWsprText listeningEnv "x\r\ny")) := by
  refine (parseAllWsprReader_eq_text_iff (fun _ => rfl) (by decide) (by decide)
    ⟨by decide, by decide, by decide⟩).mpr ?_
  decide

/-- A line that ends in two carriage returns and a line feed. -/
def strayLog : String := "x\r\r\n"

theorem strayLog_fits : LogFits offlineLimits strayLog := by
  refine ⟨by decide, ?_, by decide⟩
  decide

/-- The reader drops the carriage return that the text parser keeps. -/
theorem strayLog_differs :
    parseAllWsprReader listeningEnv "ALL_WSPR.TXT" offlineLimits (fun _ => false)
        [.ok (utf8Bytes strayLog)] ≠
      .ok (.complete (parseAllWsprText listeningEnv strayLog)) := by
  have hcontent : [utf8Bytes strayLog].flatten = utf8Bytes strayLog := by simp
  have hrunning : ∀ look, (fun _ : ℕ => false) look = false := fun _ => rfl
  change parseAllWsprReader _ _ _ _ ([utf8Bytes strayLog].map .ok) ≠ _
  rw [parseAllWsprReader_complete hrunning (by decide) hcontent strayLog_fits]
  intro hsame
  injection hsame with hsame
  injection hsame with hsame
  have hissues := congrArg (fun parsed => parsed.issues.map (·.rawLine)) hsame
  revert hissues
  decide

end Scenario

end AntennaBench
