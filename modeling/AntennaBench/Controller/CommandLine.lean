import AntennaBench.Core.Value
import AntennaBench.Core.Result

/-!
# Command lines

The tokenizer that turns a one-line command into a program and its arguments, against the
grammar it stands for: whitespace separates tokens, quotation marks group text and a
backslash escapes the character after it.
-/

namespace AntennaBench

inductive Quote where
  | single
  | double
  deriving DecidableEq

namespace Quote

def mark : Quote → Char
  | single => '\''
  | double => '\x22'

def ofMark? (character : Char) : Option Quote :=
  if character = '\'' then some single
  else if character = '\x22' then some double
  else none

@[simp]
theorem ofMark?_eq_some {character : Char} {quote : Quote} :
    ofMark? character = some quote ↔ character = quote.mark := by
  unfold ofMark?
  cases quote <;> split_ifs with hsingle hdouble <;> simp_all [mark]

theorem mark_whitespace (quote : Quote) : isWhitespace quote.mark = false := by
  cases quote <;> decide

theorem ofMark?_whitespace {c : Char} (hspace : isWhitespace c = true) :
    c ≠ '\\' ∧ ofMark? c = none := by
  refine ⟨by rintro rfl; exact absurd hspace (by decide), ?_⟩
  apply Option.eq_none_iff_forall_ne_some.mpr
  intro quote hquote
  rw [ofMark?_eq_some.mp hquote, quote.mark_whitespace] at hspace
  exact absurd hspace (by decide)

theorem mark_ne_backslash (quote : Quote) : quote.mark ≠ '\\' := by
  cases quote <;> decide

end Quote

structure Tokenizer where
  tokens : List (List Char) := []
  token : List Char := []
  quote : Option Quote := none
  escaped : Bool := false
  tokenStarted : Bool := false

namespace Tokenizer

def push (state : Tokenizer) (character : Char) : Tokenizer :=
  { state with token := state.token ++ [character], tokenStarted := true }

/-- One turn of the character loop of `tokenize_command`. -/
def step (state : Tokenizer) (character : Char) : Tokenizer :=
  if state.escaped then { state.push character with escaped := false }
  else if character = '\\' then { state with escaped := true, tokenStarted := true }
  else match state.quote with
    | some quote =>
      if character = quote.mark then { state with quote := none } else state.push character
    | none =>
      match Quote.ofMark? character with
      | some quote => { state with quote := some quote, tokenStarted := true }
      | none =>
        if isWhitespace character then
          if state.tokenStarted then
            { state with
              tokens := state.tokens ++ [state.token], token := [], tokenStarted := false }
          else state
        else state.push character

def finish (state : Tokenizer) : Except String (List (List Char)) := do
  failIf state.escaped "a trailing backslash must escape another character"
  failIf state.quote.isSome "quoted command text is not closed"
  let tokens := if state.tokenStarted then state.tokens ++ [state.token] else state.tokens
  failIf tokens.isEmpty "a command must contain a program"
  return tokens

end Tokenizer

def tokenizeCommand (input : String) : Except String (List String) :=
  (input.toList.foldl Tokenizer.step {}).finish.map (·.map String.ofList)

/-- The spellings of a text between two quotation marks. -/
inductive QuotedText (quote : Quote) : List Char → List Char → Prop where
  | nil : QuotedText quote [] []
  | plain {c : Char} {text spelling : List Char} : c ≠ quote.mark → c ≠ '\\' →
      QuotedText quote text spelling → QuotedText quote (c :: text) (c :: spelling)
  | escaped {c : Char} {text spelling : List Char} :
      QuotedText quote text spelling → QuotedText quote (c :: text) ('\\' :: c :: spelling)

structure IsPlain (c : Char) : Prop where
  backslash : c ≠ '\\'
  mark : ∀ quote : Quote, c ≠ quote.mark
  whitespace : isWhitespace c = false

/-- The spellings of one token. -/
inductive TokenText : List Char → List Char → Prop where
  | nil : TokenText [] []
  | plain {c : Char} {text spelling : List Char} : IsPlain c →
      TokenText text spelling → TokenText (c :: text) (c :: spelling)
  | escaped {c : Char} {text spelling : List Char} :
      TokenText text spelling → TokenText (c :: text) ('\\' :: c :: spelling)
  | quoted {quote : Quote} {inner text quotation spelling : List Char} :
      QuotedText quote inner quotation → TokenText text spelling →
        TokenText (inner ++ text) (quote.mark :: quotation ++ quote.mark :: spelling)

def Separated (line : List Char) : Prop :=
  ∀ c ∈ line.head?, isWhitespace c = true

/-- The command lines that spell a list of tokens. -/
inductive CommandLine : List (List Char) → List Char → Prop where
  | nil : CommandLine [] []
  | space {c : Char} {tokens : List (List Char)} {line : List Char} : isWhitespace c = true →
      CommandLine tokens line → CommandLine tokens (c :: line)
  | token {text spelling : List Char} {tokens : List (List Char)} {line : List Char} :
      TokenText text spelling → spelling ≠ [] → Separated line →
        CommandLine tokens line → CommandLine (text :: tokens) (spelling ++ line)

namespace Tokenizer

/-- The tokenizer between two tokens. -/
def between (done : List (List Char)) : Tokenizer :=
  { tokens := done }

def within (done : List (List Char)) (token : List Char) : Tokenizer :=
  { tokens := done, token := token, tokenStarted := true }

def quoting (quote : Quote) (done : List (List Char)) (token : List Char) : Tokenizer :=
  { tokens := done, token := token, quote := some quote, tokenStarted := true }

variable {quote : Quote} {done : List (List Char)} {token : List Char} {c : Char}

theorem step_between_space (hspace : isWhitespace c = true) :
    step (between done) c = between done := by
  obtain ⟨hback, hmark⟩ := Quote.ofMark?_whitespace hspace
  simp [step, between, hback, hmark, hspace]

theorem step_between (hspace : isWhitespace c = false) :
    step (between done) c = step (within done []) c := by
  simp [step, between, within, push, hspace]

theorem step_within_space (hspace : isWhitespace c = true) :
    step (within done token) c = between (done ++ [token]) := by
  obtain ⟨hback, hmark⟩ := Quote.ofMark?_whitespace hspace
  simp [step, between, within, hback, hmark, hspace]

theorem step_within_plain (h : IsPlain c) :
    step (within done token) c = within done (token ++ [c]) := by
  have hmark : Quote.ofMark? c = none :=
    Option.eq_none_iff_forall_ne_some.mpr fun quote hquote =>
      h.mark quote (Quote.ofMark?_eq_some.mp hquote)
  simp [step, within, push, h.backslash, hmark, h.whitespace]

theorem step_within_mark :
    step (within done token) quote.mark = quoting quote done token := by
  have hmark : Quote.ofMark? quote.mark = some quote := Quote.ofMark?_eq_some.mpr rfl
  simp [step, within, quoting, quote.mark_ne_backslash, hmark]

theorem step_quoting_mark :
    step (quoting quote done token) quote.mark = within done token := by
  simp [step, within, quoting, quote.mark_ne_backslash]

theorem step_quoting_plain (hmark : c ≠ quote.mark) (hback : c ≠ '\\') :
    step (quoting quote done token) c = quoting quote done (token ++ [c]) := by
  simp [step, quoting, push, hmark, hback]

theorem step_within_escape :
    step (step (within done token) '\\') c = within done (token ++ [c]) := by
  simp [step, within, push]

theorem step_quoting_escape :
    step (step (quoting quote done token) '\\') c = quoting quote done (token ++ [c]) := by
  simp [step, quoting, push]

theorem foldl_quotedText {text spelling : List Char} (h : QuotedText quote text spelling) :
    ∀ token, spelling.foldl step (quoting quote done token) =
      quoting quote done (token ++ text) := by
  induction h with
  | nil => simp
  | plain hmark hback _ ih =>
    intro token
    rw [List.foldl_cons, step_quoting_plain hmark hback, ih]
    simp
  | escaped _ ih =>
    intro token
    rw [List.foldl_cons, List.foldl_cons, step_quoting_escape, ih]
    simp

theorem foldl_tokenText {text spelling : List Char} (h : TokenText text spelling) :
    ∀ token, spelling.foldl step (within done token) = within done (token ++ text) := by
  induction h with
  | nil => simp
  | plain hplain _ ih =>
    intro token
    rw [List.foldl_cons, step_within_plain hplain, ih]
    simp
  | escaped _ ih =>
    intro token
    rw [List.foldl_cons, List.foldl_cons, step_within_escape, ih]
    simp
  | quoted hinner _ ih =>
    intro token
    rw [List.cons_append, List.foldl_cons, step_within_mark, List.foldl_append,
      foldl_quotedText hinner, List.foldl_cons, step_quoting_mark, ih]
    simp

@[simp]
theorem finish_between {tokens : List (List Char)} :
    (between done).finish = .ok tokens ↔ tokens = done ∧ done ≠ [] := by
  unfold finish between failIf
  cases done <;> simp [pure, Except.pure, bind, Except.bind, eq_comm]

@[simp]
theorem finish_within {tokens : List (List Char)} :
    (within done token).finish = .ok tokens ↔ tokens = done ++ [token] := by
  unfold finish within failIf
  cases done <;> simp [pure, Except.pure, bind, Except.bind, eq_comm]

theorem finish_quoting {tokens : List (List Char)} :
    (quoting quote done token).finish ≠ .ok tokens := by
  simp [finish, quoting, failIf, bind, Except.bind]

theorem finish_ne_nil {state : Tokenizer} : state.finish ≠ .ok [] := by
  intro h
  simp only [finish, bind_eq_ok, failIf_eq_ok] at h
  obtain ⟨_, _, _, _, _, htokens, hresult⟩ := h
  rw [Except.ok.inj hresult] at htokens
  exact absurd htokens (by decide)

theorem finish_escaped {state : Tokenizer} {tokens : List (List Char)}
    (h : state.escaped = true) : state.finish ≠ .ok tokens := by
  simp [finish, h, failIf, bind, Except.bind]

end Tokenizer

theorem tokenText_head {text spelling : List Char} {c : Char}
    (h : TokenText text (c :: spelling)) : isWhitespace c = false := by
  cases h with
  | plain hplain _ => exact hplain.whitespace
  | escaped _ => decide
  | @quoted quote _ _ _ _ _ _ => exact quote.mark_whitespace

theorem commandLine_empty {tokens : List (List Char)} {line : List Char}
    (h : CommandLine tokens line) (hline : line = []) : tokens = [] := by
  cases h with
  | nil => rfl
  | space => exact absurd hline (List.cons_ne_nil _ _)
  | token _ hspelling => exact absurd (List.append_eq_nil_iff.mp hline).1 hspelling

open Tokenizer in
theorem finish_commandLine {tokens : List (List Char)} {line : List Char}
    (h : CommandLine tokens line) :
    ∀ done, done ++ tokens ≠ [] →
      (line.foldl step (between done)).finish = .ok (done ++ tokens) := by
  induction h with
  | nil =>
    intro done hdone
    rw [List.append_nil] at hdone ⊢
    exact finish_between.mpr ⟨rfl, hdone⟩
  | space hspace _ ih =>
    intro done hdone
    rw [List.foldl_cons, step_between_space hspace]
    exact ih done hdone
  | @token text spelling tokens line htext hspelling hseparated hline ih =>
    intro done _
    have htoken : spelling.foldl step (between done) = within done text := by
      obtain ⟨c, rest, rfl⟩ := List.exists_cons_of_ne_nil hspelling
      have hfold : (c :: rest).foldl step (within done []) = within done ([] ++ text) :=
        foldl_tokenText htext []
      rwa [List.foldl_cons, ← step_between (tokenText_head htext), List.nil_append] at hfold
    rw [List.foldl_append, htoken]
    cases line with
    | nil =>
      rw [commandLine_empty hline rfl]
      exact finish_within.mpr rfl
    | cons c rest =>
      have hspace : isWhitespace c = true := hseparated c rfl
      have hnext := ih (done ++ [text]) (by simp)
      rw [List.foldl_cons, step_between_space hspace] at hnext
      rw [List.foldl_cons, step_within_space hspace, hnext]
      simp

/-- What remains of a line inside a token that has begun. -/
def InToken (done : List (List Char)) (token line : List Char) (result : List (List Char)) : Prop :=
  ∃ text spelling tokens rest, TokenText text spelling ∧ Separated rest ∧
    CommandLine tokens rest ∧ line = spelling ++ rest ∧
    result = done ++ (token ++ text) :: tokens

def InQuote (quote : Quote) (done : List (List Char)) (token line : List Char)
    (result : List (List Char)) : Prop :=
  ∃ text spelling rest, QuotedText quote text spelling ∧
    line = spelling ++ quote.mark :: rest ∧ InToken done (token ++ text) rest result

section Reading

variable {quote : Quote} {done result : List (List Char)} {token line : List Char} {c : Char}

theorem InToken.plain (hplain : IsPlain c) (h : InToken done (token ++ [c]) line result) :
    InToken done token (c :: line) result := by
  obtain ⟨text, spelling, tokens, rest, htext, hrest, hline, rfl, rfl⟩ := h
  exact ⟨c :: text, c :: spelling, tokens, rest, .plain hplain htext, hrest, hline, rfl, by simp⟩

theorem InToken.escaped (h : InToken done (token ++ [c]) line result) :
    InToken done token ('\\' :: c :: line) result := by
  obtain ⟨text, spelling, tokens, rest, htext, hrest, hline, rfl, rfl⟩ := h
  exact ⟨c :: text, '\\' :: c :: spelling, tokens, rest, .escaped htext, hrest, hline, rfl,
    by simp⟩

theorem InToken.quoted (h : InQuote quote done token line result) :
    InToken done token (quote.mark :: line) result := by
  obtain ⟨inner, quotation, _, hinner, rfl, h⟩ := h
  obtain ⟨text, spelling, tokens, rest, htext, hrest, hline, rfl, rfl⟩ := h
  exact ⟨inner ++ text, quote.mark :: quotation ++ quote.mark :: spelling, tokens, rest,
    .quoted hinner htext, hrest, hline, by simp, by simp⟩

theorem InToken.space {tokens : List (List Char)} (hspace : isWhitespace c = true)
    (h : CommandLine tokens line) : InToken done token (c :: line) (done ++ token :: tokens) :=
  ⟨[], [], tokens, c :: line, .nil, by simpa [Separated] using hspace, .space hspace h, rfl,
    by simp⟩

theorem InQuote.close (h : InToken done token line result) :
    InQuote quote done token (quote.mark :: line) result :=
  ⟨[], [], line, .nil, rfl, by simpa using h⟩

theorem InQuote.plain (hmark : c ≠ quote.mark) (hback : c ≠ '\\')
    (h : InQuote quote done (token ++ [c]) line result) :
    InQuote quote done token (c :: line) result := by
  obtain ⟨text, spelling, rest, htext, rfl, hrest⟩ := h
  exact ⟨c :: text, c :: spelling, rest, .plain hmark hback htext, rfl, by simpa using hrest⟩

theorem InQuote.escaped (h : InQuote quote done (token ++ [c]) line result) :
    InQuote quote done token ('\\' :: c :: line) result := by
  obtain ⟨text, spelling, rest, htext, rfl, hrest⟩ := h
  exact ⟨c :: text, '\\' :: c :: spelling, rest, .escaped htext, rfl, by simpa using hrest⟩

/-- A token that begins at a character other than whitespace takes it in. -/
theorem InToken.commandLine (hspace : isWhitespace c = false)
    (h : InToken done [] (c :: line) result) :
    ∃ tokens, CommandLine tokens (c :: line) ∧ result = done ++ tokens := by
  obtain ⟨text, spelling, tokens, rest, htext, hrest, hline, hsplit, rfl⟩ := h
  refine ⟨text :: tokens, ?_, rfl⟩
  rw [hsplit]
  refine .token htext ?_ hrest hline
  rintro rfl
  rw [List.nil_append] at hsplit
  rw [hrest c (by rw [← hsplit]; rfl)] at hspace
  exact absurd hspace (by decide)

end Reading

open Tokenizer in
/-- What a line that is accepted spells from each of the three states between its characters. -/
theorem readings (line : List Char) (done : List (List Char)) (token : List Char)
    (result : List (List Char)) :
    ((line.foldl step (between done)).finish = .ok result →
      ∃ tokens, CommandLine tokens line ∧ result = done ++ tokens) ∧
    ((line.foldl step (within done token)).finish = .ok result →
      InToken done token line result) ∧
    (∀ quote, (line.foldl step (quoting quote done token)).finish = .ok result →
      InQuote quote done token line result) := by
  induction hlength : line.length using Nat.strongRecOn generalizing line done token with
  | ind length ih =>
    subst hlength
    cases line with
    | nil =>
      refine ⟨fun h => ⟨[], .nil, ?_⟩, fun h => ?_, fun quote h => absurd h finish_quoting⟩
      · rw [List.append_nil]
        exact (finish_between.mp h).1
      · exact ⟨[], [], [], [], .nil, by simp [Separated], .nil, rfl,
          by simpa using finish_within.mp h⟩
    | cons c rest =>
      have hwithin : ∀ token, ((c :: rest).foldl step (within done token)).finish = .ok result →
          InToken done token (c :: rest) result := by
        intro token h
        by_cases hback : c = '\\'
        · subst hback
          cases rest with
          | nil => exact absurd h (finish_escaped (by simp [step, within]))
          | cons c rest =>
            rw [List.foldl_cons, List.foldl_cons, step_within_escape] at h
            exact .escaped ((ih _ (by simp only [List.length_cons]; omega) rest done
              (token ++ [c]) rfl).2.1 h)
        by_cases hspace : isWhitespace c = true
        · rw [List.foldl_cons, step_within_space hspace] at h
          obtain ⟨tokens, hrest, rfl⟩ := (ih _ (by simp) rest (done ++ [token]) [] rfl).1 h
          rw [List.append_assoc]
          exact .space hspace hrest
        by_cases hmark : ∃ quote : Quote, c = quote.mark
        · obtain ⟨quote, rfl⟩ := hmark
          rw [List.foldl_cons, step_within_mark] at h
          exact .quoted ((ih _ (by simp) rest done token rfl).2.2 quote h)
        · have hplain : IsPlain c :=
            ⟨hback, fun quote hquote => hmark ⟨quote, hquote⟩, by simpa using hspace⟩
          rw [List.foldl_cons, step_within_plain hplain] at h
          exact .plain hplain ((ih _ (by simp) rest done (token ++ [c]) rfl).2.1 h)
      refine ⟨fun h => ?_, hwithin token, fun quote h => ?_⟩
      · by_cases hspace : isWhitespace c = true
        · rw [List.foldl_cons, step_between_space hspace] at h
          obtain ⟨tokens, hrest, hresult⟩ := (ih _ (by simp) rest done [] rfl).1 h
          exact ⟨tokens, .space hspace hrest, hresult⟩
        · have hfirst : isWhitespace c = false := by simpa using hspace
          rw [List.foldl_cons, step_between hfirst, ← List.foldl_cons] at h
          exact (hwithin [] h).commandLine hfirst
      · by_cases hback : c = '\\'
        · subst hback
          cases rest with
          | nil => exact absurd h (finish_escaped (by simp [step, quoting]))
          | cons c rest =>
            rw [List.foldl_cons, List.foldl_cons, step_quoting_escape] at h
            exact .escaped ((ih _ (by simp only [List.length_cons]; omega) rest done (token ++ [c])
              rfl).2.2 quote h)
        by_cases hmark : c = quote.mark
        · subst hmark
          rw [List.foldl_cons, step_quoting_mark] at h
          exact .close ((ih _ (by simp) rest done token rfl).2.1 h)
        · rw [List.foldl_cons, step_quoting_plain hmark hback] at h
          exact .plain hmark hback ((ih _ (by simp) rest done (token ++ [c]) rfl).2.2 quote h)

/-- The tokenizer accepts exactly the lines of the grammar that hold a token. -/
theorem tokenizeCommand_eq_ok {input : String} {tokens : List String} :
    tokenizeCommand input = .ok tokens ↔
      CommandLine (tokens.map String.toList) input.toList ∧ tokens ≠ [] := by
  unfold tokenizeCommand
  constructor
  · intro h
    cases hread : (input.toList.foldl Tokenizer.step {}).finish with
    | error e =>
      rw [hread] at h
      exact absurd h (by simp [Except.map])
    | ok result =>
      rw [hread] at h
      obtain rfl : result.map String.ofList = tokens := Except.ok.inj h
      obtain ⟨read, hline, hresult⟩ := (readings input.toList [] [] result).1 hread
      rw [List.nil_append] at hresult
      subst hresult
      refine ⟨by simpa [Function.comp_def] using hline, ?_⟩
      rintro hempty
      rw [List.map_eq_nil_iff.mp hempty] at hread
      exact absurd hread Tokenizer.finish_ne_nil
  · rintro ⟨hline, htokens⟩
    have hread := finish_commandLine hline [] (by simpa using htokens)
    have hstart : ({} : Tokenizer) = Tokenizer.between [] := rfl
    rw [hstart, hread]
    simp [Except.map, Function.comp_def]

def escape (quote : Quote) (c : Char) : List Char :=
  if c = quote.mark ∨ c = '\\' then ['\\', c] else [c]

/-- A token between quotation marks, with a backslash before each mark and backslash in it. -/
def quoteToken (quote : Quote) (token : String) : List Char :=
  quote.mark :: token.toList.flatMap (escape quote) ++ [quote.mark]

def quoteTokens (quote : Quote) : List String → List Char
  | [] => []
  | [token] => quoteToken quote token
  | token :: tokens => quoteToken quote token ++ ' ' :: quoteTokens quote tokens

def quoteCommand (quote : Quote) (tokens : List String) : String :=
  String.ofList (quoteTokens quote tokens)

theorem quotedText_escape (quote : Quote) (text : List Char) :
    QuotedText quote text (text.flatMap (escape quote)) := by
  induction text with
  | nil => exact .nil
  | cons c text ih =>
    rw [List.flatMap_cons]
    by_cases h : c = quote.mark ∨ c = '\\'
    · rw [escape, if_pos h]
      exact .escaped ih
    · rw [escape, if_neg h]
      exact .plain (fun hmark => h (Or.inl hmark)) (fun hback => h (Or.inr hback)) ih

theorem quoteToken_tokenText (quote : Quote) (token : String) :
    TokenText token.toList (quoteToken quote token) := by
  have h := TokenText.quoted (quotedText_escape quote token.toList) .nil
  rwa [List.append_nil] at h

theorem quoteTokens_commandLine (quote : Quote) (tokens : List String) :
    CommandLine (tokens.map String.toList) (quoteTokens quote tokens) := by
  induction tokens with
  | nil => exact .nil
  | cons token tokens ih =>
    have htoken := quoteToken_tokenText quote token
    have hne : quoteToken quote token ≠ [] := List.cons_ne_nil _ _
    cases tokens with
    | nil =>
      have h := CommandLine.token htoken hne (by simp [Separated]) .nil
      rwa [List.append_nil] at h
    | cons next rest =>
      have hspace : isWhitespace ' ' = true := by decide
      exact .token htoken hne (by simpa [Separated] using hspace) (.space hspace ih)

theorem tokenizeCommand_quoteCommand (quote : Quote) {tokens : List String} (h : tokens ≠ []) :
    tokenizeCommand (quoteCommand quote tokens) = .ok tokens := by
  refine tokenizeCommand_eq_ok.mpr ⟨?_, h⟩
  rw [quoteCommand, String.toList_ofList]
  exact quoteTokens_commandLine quote tokens

end AntennaBench
