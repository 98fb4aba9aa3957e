import AntennaBench.Controller.CommandLine
import AntennaBench.Core.AntennaControl
import AntennaBench.Scenario.Encoding
import AntennaBench.Wire.Lines
import AntennaBench.Timeline.Related

/-!
# Command templates

The expansion of a controller command for one invocation. A template is read once, into
characters, doubled braces and placeholders; its expansion puts a value in the place of each
placeholder and does not look at what it put there.
-/

namespace AntennaBench

structure ControllerCommandTemplate where
  programTemplate : String
  argumentTemplates : List String
  deriving DecidableEq

structure ResolvedCommand where
  command : AntennaControlCommandV5
  deriving DecidableEq

def contextValues (context : AntennaControlContextV5) : List (String × String) :=
  [("antenna", context.antenna),
    ("target", context.target),
    ("mode", context.mode.text),
    ("direction", context.direction.text),
    ("band", context.band.text),
    ("frequency_hz", context.frequencyHz.elim "" toString),
    ("sequence", toString context.sequence),
    ("intent_id", context.intentId),
    ("session_id", context.sessionId),
    ("callsign", context.callsign)]

/-- The loop of `interpolate_template`, on the characters from its index on. -/
def interpolateFrom (values : List (String × String)) (output characters : List Char) :
    Except String (List Char) :=
  match characters with
  | [] => .ok output
  | '{' :: '{' :: rest => interpolateFrom values (output ++ ['{']) rest
  | '}' :: '}' :: rest => interpolateFrom values (output ++ ['}']) rest
  | '{' :: rest =>
    match rest.idxOf? '}' with
    | none => .error "a placeholder is missing its closing brace"
    | some offset =>
      if (rest.take offset).contains '{' || (rest.take offset).isEmpty then
        .error "a placeholder name is malformed"
      else
        match values.lookup (String.ofList (rest.take offset)) with
        | none =>
          .error ("unknown placeholder \x7b" ++ String.ofList (rest.take offset) ++ "\x7d")
        | some value => interpolateFrom values (output ++ value.toList) (rest.drop (offset + 1))
  | '}' :: _ => .error "a literal closing brace must be written as \x7d\x7d"
  | c :: rest => interpolateFrom values (output ++ [c]) rest
termination_by characters.length

def interpolateTemplate (template : String) (values : List (String × String)) :
    Except String String :=
  (interpolateFrom values [] template.toList).map String.ofList

def invocationSize (template : ControllerCommandTemplate) (program : String)
    (arguments : List String) : ℕ :=
  template.programTemplate.utf8ByteSize + (template.argumentTemplates.map (·.utf8ByteSize)).sum +
    program.utf8ByteSize + (arguments.map (·.utf8ByteSize)).sum

def resolveCommand (template : ControllerCommandTemplate) (context : AntennaControlContextV5) :
    Except String ResolvedCommand := do
  let values := contextValues context
  let program ← interpolateTemplate template.programTemplate values
  let arguments ← template.argumentTemplates.mapM (interpolateTemplate · values)
  failIf (program.isEmpty || commandProgramMaxBytes < program.utf8ByteSize)
    "the expanded program is empty or exceeds its fixed limit"
  failIf (arguments.any (commandArgumentMaxBytes < ·.utf8ByteSize))
    "an expanded argument exceeds its fixed limit"
  failIf (commandInvocationMaxBytes < invocationSize template program arguments)
    "the original and expanded invocation exceed the fixed combined limit"
  return ⟨⟨template.programTemplate, template.argumentTemplates, program, arguments⟩⟩

inductive TemplatePiece where
  | character (c : Char)
  | openBrace
  | closeBrace
  | placeholder (name : List Char)

namespace TemplatePiece

def spelling : TemplatePiece → List Char
  | character c => [c]
  | openBrace => ['{', '{']
  | closeBrace => ['}', '}']
  | placeholder name => '{' :: name ++ ['}']

/-- Braces stand in no character and no name. -/
def WellFormed : TemplatePiece → Prop
  | character c => c ≠ '{' ∧ c ≠ '}'
  | placeholder name => '{' ∉ name ∧ '}' ∉ name
  | _ => True

def value (values : List (String × String)) : TemplatePiece → Option (List Char)
  | character c => some [c]
  | openBrace => some ['{']
  | closeBrace => some ['}']
  | placeholder name => (values.lookup (String.ofList name)).map String.toList

theorem placeholder_spelling (name rest : List Char) :
    (placeholder name).spelling ++ rest = '{' :: (name ++ '}' :: rest) := by
  simp [spelling]

end TemplatePiece

/-- The pieces of a template whose braces are balanced. -/
structure TemplateReading (template : String) where
  pieces : List TemplatePiece
  wellFormed : ∀ piece ∈ pieces, piece.WellFormed
  spelled : pieces.flatMap TemplatePiece.spelling = template.toList

/-- The values of the pieces one after the other, when every placeholder has one. -/
def expansion? (values : List (String × String)) : List TemplatePiece → Option (List Char)
  | [] => some []
  | piece :: pieces => do
    let value ← piece.value values
    let rest ← expansion? values pieces
    return value ++ rest

theorem interpolateFrom_placeholder {values : List (String × String)} {name : List Char}
    (hopen : '{' ∉ name) (hclose : '}' ∉ name) (output rest : List Char) :
    interpolateFrom values output ('{' :: (name ++ '}' :: rest)) =
      if name = [] then .error "a placeholder name is malformed"
      else match values.lookup (String.ofList name) with
        | none => .error ("unknown placeholder \x7b" ++ String.ofList name ++ "\x7d")
        | some value => interpolateFrom values (output ++ value.toList) rest := by
  have hindex : (name ++ '}' :: rest).idxOf? '}' = some name.length := by
    rw [List.idxOf?_eq_some_iff]
    refine ⟨by simp, by simp, fun j hj => ?_⟩
    rw [List.getElem_append_left hj]
    intro heq
    exact hclose (heq ▸ List.getElem_mem hj)
  rw [interpolateFrom]
  · rw [hindex]
    simp [hopen]
  · intro rest' hcons
    cases name with
    | nil => exact absurd (List.cons.inj hcons).1 (by decide)
    | cons c name => exact hopen (by simp [(List.cons.inj hcons).1])

theorem interpolateFrom_character {values : List (String × String)} {c : Char}
    (hopen : c ≠ '{') (hclose : c ≠ '}') (output rest : List Char) :
    interpolateFrom values output (c :: rest) = interpolateFrom values (output ++ [c]) rest := by
  rw [interpolateFrom]
  · exact fun rest' h _ => hopen h
  · exact fun rest' h _ => hclose h
  · exact hopen
  · exact hclose

section Interpolation

variable {values : List (String × String)} {pieces : List TemplatePiece}

theorem expansion?_cons_eq_some {piece : TemplatePiece} {text : List Char} :
    expansion? values (piece :: pieces) = some text ↔ ∃ value rest,
      piece.value values = some value ∧ expansion? values pieces = some rest ∧
        text = value ++ rest := by
  simp only [expansion?, Option.bind_eq_bind, Option.bind_eq_some_iff, Option.pure_def,
    Option.some.injEq]
  constructor
  · rintro ⟨value, hvalue, rest, hrest, rfl⟩
    exact ⟨value, rest, hvalue, hrest, rfl⟩
  · rintro ⟨value, rest, hvalue, hrest, rfl⟩
    exact ⟨value, hvalue, rest, hrest, rfl⟩

theorem expansion?_eq_none : expansion? values pieces = none ↔
    ∃ name, TemplatePiece.placeholder name ∈ pieces ∧
      values.lookup (String.ofList name) = none := by
  induction pieces with
  | nil => simp [expansion?]
  | cons piece pieces ih =>
    cases hvalue : piece.value values with
    | none =>
      cases piece with
      | placeholder name =>
        simp only [TemplatePiece.value, Option.map_eq_none_iff] at hvalue
        refine ⟨fun _ => ⟨name, List.mem_cons_self, hvalue⟩, fun _ => ?_⟩
        simp [expansion?, TemplatePiece.value, hvalue]
      | _ => exact absurd hvalue (by simp [TemplatePiece.value])
    | some value =>
      have hcons : expansion? values (piece :: pieces) = none ↔
          expansion? values pieces = none := by
        cases hrest : expansion? values pieces <;> simp [expansion?, hvalue, hrest]
      rw [hcons, ih]
      constructor
      · rintro ⟨name, hmem, hname⟩
        exact ⟨name, List.mem_cons_of_mem _ hmem, hname⟩
      · rintro ⟨name, hmem, hname⟩
        rcases List.mem_cons.mp hmem with rfl | hmem
        · simp [TemplatePiece.value, hname] at hvalue
        · exact ⟨name, hmem, hname⟩

/-- What the loop writes is the expansion of the pieces it reads. -/
theorem interpolateFrom_pieces (hnameless : values.lookup "" = none)
    (hpieces : ∀ piece ∈ pieces, piece.WellFormed) {text : List Char}
    (h : expansion? values pieces = some text) :
    ∀ output, interpolateFrom values output (pieces.flatMap TemplatePiece.spelling) =
      .ok (output ++ text) := by
  induction pieces generalizing text with
  | nil =>
    intro output
    obtain rfl : [] = text := Option.some.inj h
    simp [interpolateFrom]
  | cons piece pieces ih =>
    intro output
    obtain ⟨value, rest, hvalue, hrest, rfl⟩ := expansion?_cons_eq_some.mp h
    have hloop := ih (fun piece hmem => hpieces piece (List.mem_cons_of_mem _ hmem)) hrest
    have hpiece := hpieces piece List.mem_cons_self
    rw [List.flatMap_cons, ← List.append_assoc output, ← hloop (output ++ value)]
    cases piece with
    | character c =>
      obtain rfl : [c] = value := Option.some.inj hvalue
      exact interpolateFrom_character hpiece.1 hpiece.2 output _
    | openBrace =>
      obtain rfl : ['{'] = value := Option.some.inj hvalue
      simp [TemplatePiece.spelling, interpolateFrom]
    | closeBrace =>
      obtain rfl : ['}'] = value := Option.some.inj hvalue
      simp [TemplatePiece.spelling, interpolateFrom]
    | placeholder name =>
      obtain ⟨found, hfound, rfl⟩ := Option.map_eq_some_iff.mp hvalue
      have hname : name ≠ [] := by
        rintro rfl
        exact absurd (hfound.symm.trans hnameless) (by simp)
      rw [TemplatePiece.placeholder_spelling, interpolateFrom_placeholder hpiece.1 hpiece.2,
        if_neg hname, hfound]

/-- The characters are pieces, and the result is their expansion after the output. -/
def Interpolates (values : List (String × String)) (output characters result : List Char) : Prop :=
  ∃ pieces : List TemplatePiece, (∀ piece ∈ pieces, piece.WellFormed) ∧
    pieces.flatMap TemplatePiece.spelling = characters ∧
      ∃ text, expansion? values pieces = some text ∧ result = output ++ text

theorem Interpolates.cons {output rest result value : List Char} (piece : TemplatePiece)
    (hpiece : piece.WellFormed) (hvalue : piece.value values = some value)
    (h : Interpolates values (output ++ value) rest result) :
    Interpolates values output (piece.spelling ++ rest) result := by
  obtain ⟨pieces, hpieces, rfl, text, htext, rfl⟩ := h
  refine ⟨piece :: pieces, ?_, rfl, value ++ text, ?_, by simp⟩
  · exact List.forall_mem_cons.mpr ⟨hpiece, hpieces⟩
  · exact expansion?_cons_eq_some.mpr ⟨value, text, hvalue, htext, rfl⟩

theorem interpolates_of_eq_ok {output characters result : List Char}
    (h : interpolateFrom values output characters = .ok result) :
    Interpolates values output characters result := by
  fun_induction interpolateFrom values output characters with
  | case1 output =>
    obtain rfl : output = result := Except.ok.inj h
    exact ⟨[], by simp, rfl, [], rfl, by simp⟩
  | case2 output rest ih => exact (ih h).cons .openBrace trivial rfl
  | case3 output rest ih => exact (ih h).cons .closeBrace trivial rfl
  | case4 => exact absurd h (by simp)
  | case5 => exact absurd h (by simp)
  | case6 => exact absurd h (by simp)
  | case7 output rest hopen offset hoffset hname value hvalue ih =>
    obtain ⟨hlength, hmark, hbefore⟩ := List.idxOf?_eq_some_iff.mp hoffset
    have hsplit : rest = rest.take offset ++ '}' :: rest.drop (offset + 1) := by
      rw [← hmark, ← List.drop_eq_getElem_cons hlength, List.take_append_drop]
    have hclose : '}' ∉ rest.take offset := by
      intro hmem
      obtain ⟨j, hj, heq⟩ := List.mem_iff_getElem.mp hmem
      rw [List.length_take] at hj
      rw [List.getElem_take] at heq
      exact hbefore j (lt_of_lt_of_le hj (min_le_left _ _)) heq
    have hbrace : '{' ∉ rest.take offset := by
      intro hmem
      exact hname (by simp [hmem])
    have hpiece := (ih h).cons (.placeholder (rest.take offset)) ⟨hbrace, hclose⟩
      (by simp [TemplatePiece.value, hvalue])
    rwa [TemplatePiece.placeholder_spelling, ← hsplit] at hpiece
  | case8 => exact absurd h (by simp)
  | case9 output c rest _ _ hopen hclose ih =>
    exact (ih h).cons (.character c) ⟨hopen, hclose⟩ rfl

end Interpolation

theorem name_ne_openBrace {name rest rest' : List Char} (hopen : '{' ∉ name) :
    name ++ '}' :: rest ≠ '{' :: rest' := by
  cases name with
  | nil => simp
  | cons c name =>
    rw [List.cons_append]
    intro h
    exact hopen (by simp [(List.cons.inj h).1])

theorem takeWhile_name {name rest : List Char} (hclose : '}' ∉ name) :
    (name ++ '}' :: rest).takeWhile (· != '}') = name := by
  rw [List.takeWhile_append_of_pos]
  · simp
  · intro c hc
    have hne : c ≠ '}' := fun h => hclose (h ▸ hc)
    simpa using hne

theorem spelling_start {piece piece' : TemplatePiece} {rest rest' : List Char}
    (hpiece : piece.WellFormed) (hpiece' : piece'.WellFormed)
    (h : piece.spelling ++ rest = piece'.spelling ++ rest') : piece = piece' := by
  cases piece with
  | character c =>
    obtain ⟨hopen, hclose⟩ := hpiece
    cases piece' <;> simp_all [TemplatePiece.spelling]
  | openBrace =>
    cases piece' with
    | placeholder name =>
      rw [TemplatePiece.placeholder_spelling] at h
      exact absurd (List.cons.inj h).2.symm (name_ne_openBrace hpiece'.1)
    | character c => exact absurd (List.cons.inj h).1.symm hpiece'.1
    | openBrace => rfl
    | closeBrace => exact absurd (List.cons.inj h).1 (by decide)
  | closeBrace =>
    cases piece' with
    | character c => exact absurd (List.cons.inj h).1.symm hpiece'.2
    | closeBrace => rfl
    | _ => exact absurd (List.cons.inj h).1 (by decide)
  | placeholder name =>
    cases piece' with
    | placeholder name' =>
      rw [TemplatePiece.placeholder_spelling, TemplatePiece.placeholder_spelling] at h
      have hname := congrArg (List.takeWhile (· != '}')) (List.cons.inj h).2
      rw [takeWhile_name hpiece.2, takeWhile_name hpiece'.2] at hname
      rw [hname]
    | openBrace =>
      rw [TemplatePiece.placeholder_spelling] at h
      exact absurd (List.cons.inj h).2 (name_ne_openBrace hpiece.1)
    | character c => exact absurd (List.cons.inj h).1.symm hpiece'.1
    | closeBrace => exact absurd (List.cons.inj h).1 (by decide)

/-- Pieces can be read in one way only. -/
theorem pieces_unique {pieces pieces' : List TemplatePiece}
    (hpieces : ∀ piece ∈ pieces, piece.WellFormed) (hpieces' : ∀ piece ∈ pieces', piece.WellFormed)
    (h : pieces.flatMap TemplatePiece.spelling = pieces'.flatMap TemplatePiece.spelling) :
    pieces = pieces' := by
  induction pieces generalizing pieces' with
  | nil =>
    cases pieces' with
    | nil => rfl
    | cons piece' rest' => cases piece' <;> simp [TemplatePiece.spelling] at h
  | cons piece rest ih =>
    cases pieces' with
    | nil => cases piece <;> simp [TemplatePiece.spelling] at h
    | cons piece' rest' =>
      have hpiece := hpieces piece List.mem_cons_self
      have hpiece' := hpieces' piece' List.mem_cons_self
      suffices hsame : piece = piece' by
        subst hsame
        rw [List.flatMap_cons, List.flatMap_cons, List.append_cancel_left_eq] at h
        rw [ih (fun piece hmem => hpieces piece (List.mem_cons_of_mem _ hmem))
          (fun piece hmem => hpieces' piece (List.mem_cons_of_mem _ hmem)) h]
      exact spelling_start hpiece hpiece' h

instance (template : String) : Subsingleton (TemplateReading template) where
  allEq := by
    rintro ⟨pieces, hpieces, hspelled⟩ ⟨pieces', hpieces', hspelled'⟩
    obtain rfl := pieces_unique hpieces hpieces' (hspelled.trans hspelled'.symm)
    rfl

/-- The text is the template with every placeholder replaced by its value at once. -/
def Expands (values : List (String × String)) (template text : String) : Prop :=
  ∃ reading : TemplateReading template,
    expansion? values reading.pieces = some text.toList

theorem interpolateTemplate_eq_ok {values : List (String × String)}
    (hnameless : values.lookup "" = none) {template text : String} :
    interpolateTemplate template values = .ok text ↔ Expands values template text := by
  unfold interpolateTemplate
  constructor
  · intro h
    cases hread : interpolateFrom values [] template.toList with
    | error e => exact absurd h (by simp [hread, Except.map])
    | ok result =>
      rw [hread] at h
      obtain rfl : String.ofList result = text := Except.ok.inj h
      obtain ⟨pieces, hpieces, hspelled, text, htext, rfl⟩ := interpolates_of_eq_ok hread
      exact ⟨⟨pieces, hpieces, hspelled⟩, by simpa using htext⟩
  · rintro ⟨reading, hreading⟩
    rw [← reading.spelled,
      interpolateFrom_pieces hnameless reading.wellFormed hreading []]
    simp [Except.map]

theorem contextValues_nameless (context : AntennaControlContextV5) :
    (contextValues context).lookup "" = none := rfl

/-- A piece of a program or an argument that no value takes the place of. -/
def UnknownPlaceholder (values : List (String × String)) (template : String) : Prop :=
  ∃ (reading : TemplateReading template) (name : List Char),
    TemplatePiece.placeholder name ∈ reading.pieces ∧ values.lookup (String.ofList name) = none

def Unbalanced (template : String) : Prop :=
  IsEmpty (TemplateReading template)

theorem not_expands_iff {values : List (String × String)} {template : String} :
    (¬∃ text, Expands values template text) ↔
      Unbalanced template ∨ UnknownPlaceholder values template := by
  constructor
  · intro h
    by_cases hreading : Nonempty (TemplateReading template)
    · obtain ⟨reading⟩ := hreading
      refine Or.inr ⟨reading, expansion?_eq_none.mp ?_⟩
      cases htext : expansion? values reading.pieces with
      | none => rfl
      | some text => exact absurd ⟨String.ofList text, reading, by simpa using htext⟩ h
    · exact Or.inl (not_nonempty_iff.mp hreading)
  · rintro (hunbalanced | ⟨reading, name, hmem, hname⟩) ⟨text, reading', htext⟩
    · exact hunbalanced.elim reading'
    · rw [Subsingleton.elim reading' reading,
        expansion?_eq_none.mpr ⟨name, hmem, hname⟩] at htext
      exact absurd htext (by simp)

/-- The bounds an expanded command is held to. -/
def BreaksLimits (template : ControllerCommandTemplate) (program : String)
    (arguments : List String) : Prop :=
  commandProgramMaxBytes < program.utf8ByteSize ∨
    (∃ argument ∈ arguments, commandArgumentMaxBytes < argument.utf8ByteSize) ∨
      commandInvocationMaxBytes < invocationSize template program arguments

theorem resolveCommand_eq_ok {template : ControllerCommandTemplate}
    {context : AntennaControlContextV5} {resolved : ResolvedCommand} :
    resolveCommand template context = .ok resolved ↔
      ∃ program arguments, Expands (contextValues context) template.programTemplate program ∧
        List.Forall₂ (Expands (contextValues context)) template.argumentTemplates arguments ∧
        program ≠ "" ∧ ¬BreaksLimits template program arguments ∧
        resolved.command =
          ⟨template.programTemplate, template.argumentTemplates, program, arguments⟩ := by
  have hnameless := contextValues_nameless context
  simp only [resolveCommand, bind_eq_ok, failIf_eq_ok, pure_eq_ok, mapM_eq_ok,
    interpolateTemplate_eq_ok hnameless, Bool.or_eq_false_iff, decide_eq_false_iff_not]
  constructor
  · rintro ⟨program, hprogram, arguments, harguments, _, ⟨hempty, hlong⟩, _, hany, _, htotal, rfl⟩
    refine ⟨program, arguments, hprogram, harguments, ?_, ?_, rfl⟩
    · rintro rfl
      exact absurd hempty (by decide)
    · rintro (h | ⟨argument, hmem, h⟩ | h)
      · exact hlong h
      · exact absurd h (by simpa using List.any_eq_false.mp hany argument hmem)
      · exact htotal h
  · rintro ⟨program, arguments, hprogram, harguments, hempty, hlimits, hresolved⟩
    refine ⟨program, hprogram, arguments, harguments, (), ⟨by simpa using hempty, ?_⟩, (), ?_, (),
      ?_, ?_⟩
    · exact fun h => hlimits (Or.inl h)
    · apply Bool.eq_false_iff.mpr
      intro hany
      obtain ⟨argument, hmem, h⟩ := List.any_eq_true.mp hany
      exact hlimits (Or.inr (Or.inl ⟨argument, hmem, by simpa using h⟩))
    · exact fun h => hlimits (Or.inr (Or.inr h))
    · cases resolved
      exact congrArg _ hresolved.symm

def ControllerCommandTemplate.templates (template : ControllerCommandTemplate) : List String :=
  template.programTemplate :: template.argumentTemplates

theorem expands_unique {values : List (String × String)} {template text text' : String}
    (h : Expands values template text) (h' : Expands values template text') : text = text' := by
  obtain ⟨reading, hreading⟩ := h
  obtain ⟨reading', hreading'⟩ := h'
  rw [Subsingleton.elim reading' reading] at hreading'
  exact String.toList_inj.mp (Option.some.inj (hreading.symm.trans hreading'))

/-- Expansion fails for braces that do not balance, names that have no value, a program
without a character and texts beyond their limits, and for nothing else. -/
theorem resolveCommand_eq_error {template : ControllerCommandTemplate}
    {context : AntennaControlContextV5} :
    (∃ e, resolveCommand template context = .error e) ↔
      (∃ text ∈ template.templates, Unbalanced text) ∨
      (∃ text ∈ template.templates, UnknownPlaceholder (contextValues context) text) ∨
      Expands (contextValues context) template.programTemplate "" ∨
      ∃ program arguments, Expands (contextValues context) template.programTemplate program ∧
        List.Forall₂ (Expands (contextValues context)) template.argumentTemplates arguments ∧
        BreaksLimits template program arguments := by
  have hdichotomy : (∃ e, resolveCommand template context = .error e) ↔
      ¬∃ resolved, resolveCommand template context = .ok resolved := by
    cases resolveCommand template context <;> simp
  rw [hdichotomy]
  constructor
  · intro h
    by_cases hall : ∀ text ∈ template.templates, ∃ value,
        Expands (contextValues context) text value
    · obtain ⟨program, hprogram⟩ := hall _ List.mem_cons_self
      obtain ⟨arguments, harguments⟩ :=
        Timeline.exists_forall₂ fun text hmem => hall text (List.mem_cons_of_mem _ hmem)
      by_cases hempty : program = ""
      · exact Or.inr (Or.inr (Or.inl (hempty ▸ hprogram)))
      by_cases hlimits : BreaksLimits template program arguments
      · exact Or.inr (Or.inr (Or.inr ⟨program, arguments, hprogram, harguments, hlimits⟩))
      · exact absurd ⟨_, resolveCommand_eq_ok.mpr
          ⟨program, arguments, hprogram, harguments, hempty, hlimits, rfl⟩⟩ h
    · push Not at hall
      obtain ⟨text, hmem, hnone⟩ := hall
      rcases not_expands_iff.mp (not_exists.mpr hnone) with hfault | hfault
      · exact Or.inl ⟨text, hmem, hfault⟩
      · exact Or.inr (Or.inl ⟨text, hmem, hfault⟩)
  · rintro hfault ⟨resolved, hresolved⟩
    obtain ⟨program, arguments, hprogram, harguments, hempty, hlimits, -⟩ :=
      resolveCommand_eq_ok.mp hresolved
    have hexpands : ∀ text ∈ template.templates, ∃ value,
        Expands (contextValues context) text value := by
      refine List.forall_mem_cons.mpr ⟨⟨program, hprogram⟩, fun text hmem => ?_⟩
      obtain ⟨value, -, hvalue⟩ := Timeline.forall₂_exists_right harguments text hmem
      exact ⟨value, hvalue⟩
    rcases hfault with ⟨text, hmem, hfault⟩ | ⟨text, hmem, hfault⟩ | hblank |
      ⟨program', arguments', hprogram', harguments', hbreaks⟩
    · exact not_expands_iff.mpr (Or.inl hfault) (hexpands text hmem)
    · exact not_expands_iff.mpr (Or.inr hfault) (hexpands text hmem)
    · exact hempty (expands_unique hprogram hblank)
    · have hunique : Relator.RightUnique (Expands (contextValues context)) :=
        fun _ _ _ => expands_unique
      have hsame : arguments' = arguments :=
        List.right_unique_forall₂' hunique harguments' harguments
      rw [expands_unique hprogram' hprogram, hsame] at hbreaks
      exact hlimits hbreaks

/-- A command line is read by its grammar, a template is read in one way, and each of its
arguments becomes one argument with its values put in their places. -/
theorem commandTemplates_isolate :
    (∀ input tokens, tokenizeCommand input = .ok tokens ↔
      CommandLine (tokens.map String.toList) input.toList ∧ tokens ≠ []) ∧
    (∀ quote tokens, tokens ≠ [] → tokenizeCommand (quoteCommand quote tokens) = .ok tokens) ∧
    (∀ template (reading reading' : TemplateReading template), reading = reading') ∧
    (∀ template context resolved, resolveCommand template context = .ok resolved →
      resolved.command.programTemplate = template.programTemplate ∧
      resolved.command.argumentTemplates = template.argumentTemplates ∧
      Expands (contextValues context) template.programTemplate resolved.command.resolvedProgram ∧
      List.Forall₂ (Expands (contextValues context)) template.argumentTemplates
        resolved.command.resolvedArguments) ∧
    (∀ template context, (∃ e, resolveCommand template context = .error e) ↔
      (∃ text ∈ template.templates, Unbalanced text) ∨
      (∃ text ∈ template.templates, UnknownPlaceholder (contextValues context) text) ∨
      Expands (contextValues context) template.programTemplate "" ∨
      ∃ program arguments, Expands (contextValues context) template.programTemplate program ∧
        List.Forall₂ (Expands (contextValues context)) template.argumentTemplates arguments ∧
        BreaksLimits template program arguments) := by
  refine ⟨fun _ _ => tokenizeCommand_eq_ok, fun quote _ => tokenizeCommand_quoteCommand quote,
    fun _ => Subsingleton.elim, fun template context resolved h => ?_,
    fun _ _ => resolveCommand_eq_error⟩
  obtain ⟨program, arguments, hprogram, harguments, -, -, hresolved⟩ := resolveCommand_eq_ok.mp h
  rw [hresolved]
  exact ⟨rfl, rfl, hprogram, harguments⟩

namespace Scenario

def relayContext : AntennaControlContextV5 where
  antenna := "A"
  target := "\x22\x7bmode\x7d\\ "
  mode := .wholeStationAb
  direction := .receive
  band := .m20
  frequencyHz := none
  sequence := 1
  intentId := "i1"
  sessionId := "s1"
  callsign := "N1RWJ"

def relayTemplate : ControllerCommandTemplate where
  programTemplate := "relay"
  argumentTemplates := ["\x7btarget\x7d"]

theorem relayProgram_expands :
    Expands (contextValues relayContext) relayTemplate.programTemplate "relay" :=
  ⟨⟨"relay".toList.map .character, by simp [TemplatePiece.WellFormed], rfl⟩, rfl⟩

theorem relayArgument_expands :
    Expands (contextValues relayContext) "\x7btarget\x7d" relayContext.target :=
  ⟨⟨[.placeholder "target".toList], by simp [TemplatePiece.WellFormed], rfl⟩, rfl⟩

theorem relayCommand_resolved : ∃ resolved,
    resolveCommand relayTemplate relayContext = .ok resolved ∧
    List.Forall₂ (Expands (contextValues relayContext)) relayTemplate.argumentTemplates
      resolved.command.resolvedArguments := by
  have hlimits : ¬BreaksLimits relayTemplate "relay" [relayContext.target] := by
    unfold BreaksLimits
    decide
  obtain ⟨resolved, hresolved⟩ : ∃ resolved,
      resolveCommand relayTemplate relayContext = .ok resolved :=
    ⟨_, resolveCommand_eq_ok.mpr ⟨"relay", [relayContext.target], relayProgram_expands,
      .cons relayArgument_expands .nil, by decide, hlimits, rfl⟩⟩
  exact ⟨resolved, hresolved,
    (commandTemplates_isolate.2.2.2.1 relayTemplate relayContext resolved hresolved).2.2.2⟩

/-- Its frequency placeholder is known and its braces balance, but the session plans no
frequency. -/
def frequencyTemplate : ControllerCommandTemplate where
  programTemplate := "\x7bfrequency_hz\x7d"
  argumentTemplates := []

def frequencyReading : TemplateReading frequencyTemplate.programTemplate where
  pieces := [.placeholder "frequency_hz".toList]
  wellFormed := by simp [TemplatePiece.WellFormed]
  spelled := rfl

theorem frequencyProgram_expands :
    Expands (contextValues relayContext) frequencyTemplate.programTemplate "" :=
  ⟨frequencyReading, rfl⟩

theorem frequencyCommand_refused :
    (∃ e, resolveCommand frequencyTemplate relayContext = .error e) ∧
    (¬∃ text ∈ frequencyTemplate.templates, Unbalanced text) ∧
    (¬∃ text ∈ frequencyTemplate.templates,
      UnknownPlaceholder (contextValues relayContext) text) ∧
    ¬∃ program arguments,
      Expands (contextValues relayContext) frequencyTemplate.programTemplate program ∧
      List.Forall₂ (Expands (contextValues relayContext)) frequencyTemplate.argumentTemplates
        arguments ∧
      BreaksLimits frequencyTemplate program arguments := by
  have hexpands : ∀ text ∈ frequencyTemplate.templates,
      ∃ value, Expands (contextValues relayContext) text value := by
    refine List.forall_mem_cons.mpr ⟨⟨"", frequencyProgram_expands⟩, fun text hmem => ?_⟩
    exact absurd hmem List.not_mem_nil
  refine ⟨resolveCommand_eq_error.mpr (Or.inr (Or.inr (Or.inl frequencyProgram_expands))),
    ?_, ?_, ?_⟩
  · rintro ⟨text, hmem, hfault⟩
    exact not_expands_iff.mpr (Or.inl hfault) (hexpands text hmem)
  · rintro ⟨text, hmem, hfault⟩
    exact not_expands_iff.mpr (Or.inr hfault) (hexpands text hmem)
  · rintro ⟨program, arguments, hprogram, harguments, hbreaks⟩
    obtain rfl := expands_unique hprogram frequencyProgram_expands
    cases harguments
    revert hbreaks
    unfold BreaksLimits
    decide

end Scenario

end AntennaBench
