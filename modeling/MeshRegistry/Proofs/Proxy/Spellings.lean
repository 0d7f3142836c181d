import Mathlib.Data.List.Forall2
import MeshRegistry.Proofs.CommandLine.Unreadable
import MeshRegistry.Proxy.Options

/-!
# Options with one dash or two

Second dashes are given to texts only, and to exactly those that no command line may hold: a dash and a
letter start short options, of which there are none.  So a command line that can be read as it stands is
not changed, and where a text has a second dash already it may be left out.  Of bytes that spell no text
the dashes stay as they are; the command line is refused in either spelling, for reasons of its own.
-/

namespace MeshRegistry.Proxy

open CommandLine

/-! ## One text -/

theorem isSingleDashLong_iff {arg : String} :
    isSingleDashLong arg = true ↔
      ∃ c d rest, arg.toList = '-' :: c :: d :: rest ∧ c.isAlpha = true := by
  unfold isSingleDashLong
  split
  next c d rest harg => simp [harg]
  next h =>
    simp only [Bool.false_eq_true, false_iff, not_exists, not_and]
    intro c d rest harg
    exact absurd harg (h c d rest)

/-- A letter of ASCII. -/
def IsLetter (b : UInt8) : Prop :=
  (0x41 ≤ b.toNat ∧ b.toNat ≤ 0x5A) ∨ (0x61 ≤ b.toNat ∧ b.toNat ≤ 0x7A)

/-- A word that is long enough for the name of a long option: a letter and at least one byte more. -/
def IsLongWord (w : Text.Bytes) : Prop :=
  2 ≤ w.length ∧ ∃ b ∈ w.head?, IsLetter b

instance : DecidablePred IsLetter := fun b =>
  inferInstanceAs (Decidable ((0x41 ≤ b.toNat ∧ b.toNat ≤ 0x5A) ∨ (0x61 ≤ b.toNat ∧ b.toNat ≤ 0x7A)))

theorem isAlpha_of_isLetter {b : UInt8} (h : IsLetter b) : (Char.ofNat b.toNat).isAlpha = true := by
  have hbyte : ∀ n < 256, (0x41 ≤ n ∧ n ≤ 0x5A) ∨ (0x61 ≤ n ∧ n ≤ 0x7A) →
      (Char.ofNat n).isAlpha = true := by
    decide +kernel
  exact hbyte b.toNat b.toNat_lt h

theorem IsLongWord.isSingleDashLong {w : String} (h : IsLongWord (Text.bytes w)) :
    isSingleDashLong ("-" ++ w) = true := by
  obtain ⟨hlength, b, hhead, hletter⟩ := h
  obtain ⟨behind, hw⟩ := List.head?_eq_some_iff.1 hhead
  have hascii : b.toNat < 0x80 := by
    unfold IsLetter at hletter
    omega
  -- The letter is one character, and what is left of the bytes holds another.
  have htext := Text.Utf8.decode_encode w.toList
  rw [show Text.Utf8.encode w.toList = b :: behind from hw, Text.Utf8.decode_ascii hascii,
    Option.map_eq_some_iff] at htext
  obtain ⟨t, ht, hlist⟩ := htext
  cases behind with
  | nil =>
      rw [hw] at hlength
      simp at hlength
  | cons d behind =>
      obtain ⟨c, rest, -, rfl, -, -⟩ := Text.Utf8.exists_of_decode_cons ht
      refine isSingleDashLong_iff.2 ⟨_, c, rest, ?_, isAlpha_of_isLetter hletter⟩
      rw [String.toList_append, ← hlist]
      rfl

theorem not_isSingleDashLong_dashes (w : String) : isSingleDashLong ("--" ++ w) = false := by
  rw [Bool.eq_false_iff, ne_eq, isSingleDashLong_iff]
  rintro ⟨c, d, rest, harg, halpha⟩
  rw [String.toList_append] at harg
  obtain ⟨-, htail⟩ := List.cons.inj harg
  obtain ⟨rfl, -⟩ := List.cons.inj htail
  exact absurd halpha (by decide)

theorem withSecondDash_of_not {arg : String} (h : isSingleDashLong arg = false) :
    withSecondDash arg = arg := by
  rw [withSecondDash, if_neg (by rw [h]; decide)]

theorem withSecondDash_dash {w : String} (h : IsLongWord (Text.bytes w)) :
    withSecondDash ("-" ++ w) = "--" ++ w := by
  rw [withSecondDash, if_pos h.isSingleDashLong, ← String.append_assoc]
  rfl

theorem withSecondDash_dashes (w : String) : withSecondDash ("--" ++ w) = "--" ++ w :=
  withSecondDash_of_not (not_isSingleDashLong_dashes w)

theorem withSecondDash_idem (arg : String) :
    withSecondDash (withSecondDash arg) = withSecondDash arg := by
  by_cases h : isSingleDashLong arg = true
  · have hdashes : withSecondDash arg = "-" ++ arg := if_pos h
    obtain ⟨c, d, rest, harg, -⟩ := isSingleDashLong_iff.1 h
    have htwo : "-" ++ arg = "--" ++ String.ofList (c :: d :: rest) := by
      rw [← String.toList_inj]
      simp [harg]
    rw [hdashes, htwo, withSecondDash_dashes]
  · rw [Bool.not_eq_true] at h
    rw [withSecondDash_of_not h, withSecondDash_of_not h]

/-! ## What can be read as it stands -/

/-- A text that wants a second dash is refused wherever it stands, when there are neither values without
an option nor commands. -/
theorem argument_of_isSingleDashLong {spec : Spec} (hpositionals : spec.positionals = 0)
    (hcommands : spec.commands = []) (p : Progress) {arg : String}
    (harg : isSingleDashLong arg = true) : ∃ e, spec.argument p (.text arg) = .error e := by
  obtain ⟨c, d, rest, hlist, halpha⟩ := isSingleDashLong_iff.1 harg
  have hdash : c ≠ '-' := by
    rintro rfl
    exact absurd halpha (by decide)
  have hliteral : Argument.text arg ≠ .text "--" := by
    rintro heq
    cases heq
    cases hlist
  have hlong : (Argument.text arg).long? = none := by
    rw [Argument.long?, hlist, Option.map_eq_none_iff]
    simp [behindDashes?, hdash]
  have hshort : (Argument.text arg).short? = some (some c) := by
    unfold Argument.short?
    dsimp only
    rw [hlist]
    exact if_neg hdash
  unfold Spec.argument
  -- Behind `--` it is a value without an option, and in front of it a bundle of short options.
  by_cases hp : p.isLiteral = true
  · rw [if_pos hp]
    simp [Spec.positional, hpositionals, hcommands]
  · rw [if_neg hp, if_neg hliteral, hlong, hshort]
    exact ⟨_, rfl⟩

theorem not_isSingleDashLong_of_scan {spec : Spec} (hpositionals : spec.positionals = 0)
    (hcommands : spec.commands = []) {p : Progress} {args : List Argument}
    {found : Progress × Option (String × List Argument)} (h : spec.scan p args = .ok found) :
    ∀ s, .text s ∈ args → isSingleDashLong s = false := by
  induction args generalizing p with
  | nil => simp
  | cons arg rest ih =>
      rw [Spec.scan_cons hcommands] at h
      obtain ⟨p₁, hargument, hrest⟩ := exists_of_bind_eq_ok h
      intro s hs
      rcases List.mem_cons.1 hs with rfl | hs
      · rw [Bool.eq_false_iff]
        intro hdash
        obtain ⟨e, he⟩ := argument_of_isSingleDashLong hpositionals hcommands p hdash
        rw [he] at hargument
        cases hargument
      · exact ih hrest s hs

section Reading

variable {env : Environment} {o : Options} {args : List Argument}

theorem exists_of_read_eq_ok (h : Options.read env args = .ok o) :
    ∃ p, Options.spec.read args = .ok p := by
  unfold Options.read at h
  cases hread : Options.spec.read args with
  | error e =>
      rw [hread] at h
      cases h
  | ok p => exact ⟨p, rfl⟩

/-- Arguments that can be read as they stand are not changed. -/
theorem map_addSecondDash_of_read (h : Options.read env args = .ok o) :
    args.map addSecondDash = args := by
  obtain ⟨p, hread⟩ := exists_of_read_eq_ok h
  obtain ⟨found, hscan, -⟩ := exists_of_bind_eq_ok hread
  have hargs := not_isSingleDashLong_of_scan rfl rfl hscan
  have hsame : ∀ arg ∈ args, addSecondDash arg = arg := by
    intro arg harg
    cases arg with
    | text s => exact congrArg Argument.text (withSecondDash_of_not (hargs s harg))
    | bytes b h => rfl
  rw [List.map_congr_left hsame, List.map_id']

/-- Arguments that can be read are texts. -/
theorem text?_ne_none_of_read_eq_ok (h : Options.read env args = .ok o) :
    ∀ arg ∈ args, arg.text? ≠ none := by
  obtain ⟨p, hread⟩ := exists_of_read_eq_ok h
  exact text?_ne_none_of_read rfl hread

end Reading

/-! ## Command lines -/

theorem addSecondDash_idem (arg : Argument) :
    addSecondDash (addSecondDash arg) = addSecondDash arg := by
  cases arg with
  | text s => exact congrArg Argument.text (withSecondDash_idem s)
  | bytes b h => rfl

theorem normalizeArgs_idem (commandLine : List Argument) :
    normalizeArgs (normalizeArgs commandLine) = normalizeArgs commandLine := by
  cases commandLine with
  | nil => rfl
  | cons program args =>
      simp only [normalizeArgs, List.map_map, Function.comp_def, addSecondDash_idem]

theorem length_normalizeArgs (commandLine : List Argument) :
    (normalizeArgs commandLine).length = commandLine.length := by
  cases commandLine with
  | nil => rfl
  | cons program args => simp only [normalizeArgs, List.length_cons, List.length_map]

theorem head?_normalizeArgs (commandLine : List Argument) :
    (normalizeArgs commandLine).head? = commandLine.head? := by
  cases commandLine <;> rfl

theorem tail_normalizeArgs (commandLine : List Argument) :
    (normalizeArgs commandLine).tail = commandLine.tail.map addSecondDash := by
  cases commandLine <;> rfl

/-- One argument in two spellings: the same, or with the second dash left out of a long option that is
among `respellable`. -/
inductive Respelled (respellable : Argument → Prop) : Argument → Argument → Prop where
  | same (arg : Argument) : Respelled respellable arg arg
  | oneDash {arg arg' : Argument} (h : respellable arg) (w : Text.Bytes) (hw : IsLongWord w)
      (harg : arg.toBytes = 0x2D :: 0x2D :: w) (harg' : arg'.toBytes = 0x2D :: w) :
      Respelled respellable arg arg'

/-- A command line in two spellings; the name of the program is the same. -/
inductive LineRespelled (respellable : Argument → Prop) : List Argument → List Argument → Prop where
  | nil : LineRespelled respellable [] []
  | cons (program : Argument) {args args' : List Argument}
      (h : List.Forall₂ (Respelled respellable) args args') :
      LineRespelled respellable (program :: args) (program :: args')

def IsText (arg : Argument) : Prop := arg.text? ≠ none

theorem ofBytes?_dash (b : Text.Bytes) :
    Text.ofBytes? (0x2D :: b) = (Text.ofBytes? b).map ("-" ++ ·) := by
  rw [Text.ofBytes?, Text.ofBytes?, Text.Utf8.decode_ascii (by decide)]
  cases Text.Utf8.decode b with
  | none => rfl
  | some s =>
      simp only [Option.map_some, Option.some.injEq]
      rw [← String.toList_inj]
      simp

section Spellings

variable {respellable : Argument → Prop}

/-- A text with its second dash left out is a text still. -/
theorem Respelled.isText_iff {arg arg' : Argument} (h : Respelled respellable arg arg') :
    IsText arg' ↔ IsText arg := by
  cases h with
  | same => rfl
  | oneDash _ w _ harg harg' =>
      rw [IsText, IsText, ← Argument.ofBytes?_toBytes, ← Argument.ofBytes?_toBytes, harg, harg',
        ofBytes?_dash, ofBytes?_dash (_ :: w), ofBytes?_dash]
      simp

/-- Both spellings of a text are given the same dashes. -/
theorem Respelled.addSecondDash_eq {arg arg' : Argument} (h : Respelled IsText arg arg') :
    addSecondDash arg' = addSecondDash arg := by
  cases h with
  | same => rfl
  | oneDash htext w hw harg harg' =>
      have hdashes := Argument.ofBytes?_toBytes arg
      have hdash := Argument.ofBytes?_toBytes arg'
      rw [harg, ofBytes?_dash, ofBytes?_dash] at hdashes
      rw [harg', ofBytes?_dash] at hdash
      cases hv : Text.ofBytes? w with
      | none =>
          rw [hv] at hdashes
          exact absurd hdashes.symm htext
      | some v =>
          rw [hv] at hdashes hdash
          have hlong : IsLongWord (Text.bytes v) := by rwa [Text.bytes_of_ofBytes? hv]
          have htwo : "-" ++ ("-" ++ v) = "--" ++ v := by
            rw [← String.append_assoc]
            rfl
          rw [Argument.text?_eq_some_iff.1 hdashes.symm, Argument.text?_eq_some_iff.1 hdash.symm]
          simp only [addSecondDash, htwo, withSecondDash_dash hlong, withSecondDash_dashes]

variable {args args' : List Argument}

theorem map_addSecondDash_eq (h : List.Forall₂ (Respelled IsText) args args') :
    args'.map addSecondDash = args.map addSecondDash := by
  induction h with
  | nil => rfl
  | cons harg _ ih => rw [List.map_cons, List.map_cons, harg.addSecondDash_eq, ih]

theorem forall_isText_iff (h : List.Forall₂ (Respelled respellable) args args') :
    (∀ arg ∈ args', IsText arg) ↔ ∀ arg ∈ args, IsText arg := by
  induction h with
  | nil => simp
  | cons harg _ ih => rw [List.forall_mem_cons, List.forall_mem_cons, harg.isText_iff, ih]

/-- Among texts only texts are respelled. -/
theorem respelled_isText (h : List.Forall₂ (Respelled respellable) args args')
    (htexts : ∀ arg ∈ args, IsText arg) : List.Forall₂ (Respelled IsText) args args' := by
  induction h with
  | nil => exact .nil
  | cons harg _ ih =>
      rw [List.forall_mem_cons] at htexts
      refine .cons ?_ (ih htexts.2)
      cases harg with
      | same => exact .same _
      | oneDash _ w hw harg harg' => exact .oneDash htexts.1 w hw harg harg'

theorem LineRespelled.tails {line line' : List Argument} (h : LineRespelled respellable line line') :
    List.Forall₂ (Respelled respellable) line.tail line'.tail := by
  cases h with
  | nil => exact .nil
  | cons program h => exact h

end Spellings

section Extension

variable (env : Environment)

theorem ofCommandLine_eq {line line' : List Argument}
    (h : List.Forall₂ (Respelled IsText) line.tail line'.tail) :
    Options.ofCommandLine env line' = Options.ofCommandLine env line := by
  rw [Options.ofCommandLine, Options.ofCommandLine, tail_normalizeArgs, tail_normalizeArgs,
    map_addSecondDash_eq h]

/-- What is accepted consists of texts, and did so before it was given second dashes. -/
theorem isText_of_ofCommandLine {line : List Argument} {o : Options}
    (h : Options.ofCommandLine env line = .ok o) : ∀ arg ∈ line.tail, IsText arg := by
  rw [Options.ofCommandLine, tail_normalizeArgs] at h
  intro arg harg
  have hdashed := text?_ne_none_of_read_eq_ok h _ (List.mem_map_of_mem harg)
  cases arg with
  | text s => simp [IsText, Argument.text?]
  | bytes b spellsNone => exact absurd rfl hdashed

theorem ofCommandLine_eq_ok_iff {line line' : List Argument} (o : Options)
    (h : LineRespelled respellable line line') :
    Options.ofCommandLine env line' = .ok o ↔ Options.ofCommandLine env line = .ok o := by
  by_cases htexts : ∀ arg ∈ line.tail, IsText arg
  · rw [ofCommandLine_eq env (respelled_isText h.tails htexts)]
  -- With bytes that spell no text, in one spelling and so in the other, nothing is accepted.
  · constructor
    · intro haccepted
      exact absurd ((forall_isText_iff h.tails).1 (isText_of_ofCommandLine env haccepted)) htexts
    · intro haccepted
      exact absurd (isText_of_ofCommandLine env haccepted) htexts

theorem ofCommandLine_of_read {line : List Argument} {o : Options}
    (h : Options.read env line.tail = .ok o) : Options.ofCommandLine env line = .ok o := by
  rw [Options.ofCommandLine, tail_normalizeArgs, map_addSecondDash_of_read h, h]

end Extension

/-- An option with a value of one byte, which spells no text, behind two dashes or one. -/
def unreadableProto (dashes : String) : Argument :=
  .ofBytes (Text.bytes (dashes ++ "proto=") ++ [0xFF])

end MeshRegistry.Proxy
