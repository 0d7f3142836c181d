import MeshRegistry.Proofs.CommandLine.Typed
import MeshRegistry.Proofs.Text.Utf8

/-!
# Arguments that are no texts

A command line with bytes that spell no text is refused, wherever they stand.  They are a value or have
one that spells no text either, and once such a value has been taken up reading cannot end well.
-/

namespace MeshRegistry.CommandLine

open Text (ofBytes?_bytes bytes_of_ofBytes? bytes_append)

/-! ## Bytes and texts -/

namespace Argument

theorem ofBytes?_toBytes (arg : Argument) : Text.ofBytes? arg.toBytes = arg.text? := by
  cases arg with
  | text s => exact ofBytes?_bytes s
  | bytes b h => exact h

theorem text?_eq_some_iff {arg : Argument} {s : String} : arg.text? = some s ↔ arg = .text s := by
  constructor
  · intro h
    cases arg with
    | text t =>
        cases h
        rfl
    | bytes b spellsNone => cases h
  · rintro rfl
    rfl

theorem toBytes_ofBytes (b : Text.Bytes) : (ofBytes b).toBytes = b := by
  unfold ofBytes
  split
  next s hs => exact bytes_of_ofBytes? hs
  next => rfl

/-- When its name is a text, bytes that spell no text have a value, which spells none either. -/
theorem exists_of_long?_bytes {b : Text.Bytes} {spellsNone : Text.ofBytes? b = none} {name : String}
    {value : Option Argument} (h : (bytes b spellsNone).long? = some (some name, value)) :
    ∃ v, value = some v ∧ v.text? = none := by
  rw [long?, Option.map_eq_some_iff] at h
  obtain ⟨word, hword, h⟩ := h
  have hb := eq_of_behindDashes? hword
  cases hsplit : splitAtSign 0x3D word with
  | mk nameBytes valueBytes =>
      rw [hsplit] at h
      obtain ⟨hname, rfl⟩ := Prod.mk.inj h
      have hname := bytes_of_ofBytes? hname
      rcases eq_of_splitAtSign hsplit with ⟨rfl, rfl⟩ | ⟨v, rfl, rfl⟩
      · have hall : Text.bytes ("--" ++ name) = b := by
          rw [bytes_append, hname, hb]
          rfl
        rw [← hall, ofBytes?_bytes] at spellsNone
        cases spellsNone
      · refine ⟨ofBytes v, rfl, ?_⟩
        rw [← ofBytes?_toBytes, toBytes_ofBytes, Option.eq_none_iff_forall_ne_some]
        intro s hs
        have hall : Text.bytes ("--" ++ name ++ "=" ++ s) = b := by
          rw [bytes_append, bytes_append, bytes_append, hname, bytes_of_ofBytes? hs, hb,
            List.append_assoc, List.append_assoc]
          rfl
        rw [← hall, ofBytes?_bytes] at spellsNone
        cases spellsNone

end Argument

/-! ## Reading on -/

/-- A value that spells no text has been taken up and not been checked yet. -/
def Progress.Stuck (p : Progress) : Prop :=
  (∃ o v, p.pending = some (o, some v) ∧ v.text? = none) ∨ ∃ v ∈ p.positionals, v.text? = none

section

variable {spec : Spec} {p p' : Progress}

theorem take_ne_ok {v : Argument} (hv : v.text? = none) (o : Opt) : p.take o v ≠ .ok p' := by
  cases v with
  | text s => cases hv
  | bytes b spellsNone =>
      intro htake
      rw [Progress.take] at htake
      by_cases hgiven : p.given.any (·.1 = o.name) = true
      · rw [if_pos hgiven] at htake
        cases htake
      · rw [if_neg hgiven] at htake
        cases htake

theorem Progress.Stuck.resolve_ne_ok (h : p.Stuck) : p.resolve ≠ .ok p' := by
  intro hp
  unfold Progress.resolve at hp
  split at hp
  next => cases hp
  next htexts =>
    rcases h with ⟨o, v, hpending, hv⟩ | ⟨v, hmem, hv⟩
    · rw [hpending] at hp
      exact take_ne_ok hv o hp
    · rw [Bool.not_eq_true, Bool.not_eq_false', List.all_eq_true] at htexts
      have hsome := htexts v hmem
      rw [hv] at hsome
      cases hsome

/-- A value without an option is taken up when what was pending has been checked. -/
theorem positional_eq_ok {arg : Argument} (h : spec.positional p arg = .ok p') :
    ∃ p₁, p.resolve = .ok p₁ ∧ p' = { p₁ with positionals := p₁.positionals ++ [arg] } := by
  unfold Spec.positional at h
  split_ifs at h
  obtain ⟨p₁, hresolve, h⟩ := exists_of_bind_eq_ok h
  cases h
  exact ⟨p₁, hresolve, rfl⟩

/-- A long option is taken up when what was pending has been checked, and its value with it. -/
theorem long_eq_ok {name : String} {value : Option Argument} (h : spec.long p name value = .ok p') :
    (∃ p₁, p.resolve = .ok p₁) ∧ ∀ v, value = some v → v.text? ≠ none := by
  unfold Spec.long at h
  cases hfind : spec.options.find? (·.name = name) with
  | none =>
      simp only [hfind] at h
      split_ifs at h
  | some o =>
      simp only [hfind] at h
      by_cases htakes : o.takesValue = true
      · rw [if_pos htakes] at h
        cases value with
        | none =>
            obtain ⟨p₁, hresolve, -⟩ := exists_of_bind_eq_ok h
            exact ⟨⟨p₁, hresolve⟩, by simp⟩
        | some v =>
            obtain ⟨p₁, hresolve, h⟩ := exists_of_bind_eq_ok h
            obtain ⟨p₂, htake, -⟩ := exists_of_bind_eq_ok h
            refine ⟨⟨p₁, hresolve⟩, ?_⟩
            rintro v' heq hv
            cases heq
            exact take_ne_ok hv o htake
      · rw [if_neg htakes] at h
        cases value with
        | none =>
            obtain ⟨p₁, hresolve, -⟩ := exists_of_bind_eq_ok h
            exact ⟨⟨p₁, hresolve⟩, by simp⟩
        | some v => cases h

/-- Bytes that spell no text leave a value behind that cannot be read. -/
theorem stuck_of_argument {arg : Argument} (harg : arg.text? = none)
    (h : spec.argument p arg = .ok p') : p'.Stuck := by
  have hpositional : spec.positional p arg = .ok p' → p'.Stuck := by
    intro h
    obtain ⟨p₁, -, rfl⟩ := positional_eq_ok h
    exact .inr ⟨arg, by simp, harg⟩
  unfold Spec.argument at h
  split_ifs at h with hliteral hdashes
  · exact hpositional h
  · rw [hdashes] at harg
    cases harg
  · split at h
    next name value _ hlong =>
      cases arg with
      | text s => cases harg
      | bytes b spellsNone =>
          obtain ⟨v, hvalue, hv⟩ := Argument.exists_of_long?_bytes hlong
          exact absurd hv ((long_eq_ok h).2 v hvalue)
    next => cases h
    next => cases h
    next o _ _ _ =>
      cases h
      exact .inl ⟨o, arg, rfl, harg⟩
    next => exact hpositional h

theorem Progress.Stuck.argument (hp : p.Stuck) {arg : Argument} (h : spec.argument p arg = .ok p') :
    p'.Stuck := by
  have hpositional : spec.positional p arg ≠ .ok p' := by
    intro h
    obtain ⟨p₁, hresolve, -⟩ := positional_eq_ok h
    exact hp.resolve_ne_ok hresolve
  unfold Spec.argument at h
  split_ifs at h
  · exact absurd h hpositional
  · cases h
    exact hp
  · split at h
    next =>
      obtain ⟨p₁, hresolve⟩ := (long_eq_ok h).1
      exact absurd hresolve hp.resolve_ne_ok
    next => cases h
    next => cases h
    next hpending =>
      cases h
      rcases hp with ⟨o, v, hp, -⟩ | hp
      · rw [hpending] at hp
        cases hp
      · exact .inr hp
    next => exact absurd h hpositional

variable {args : List Argument} {found : Option (String × List Argument)}

theorem Progress.Stuck.scan (hcommands : spec.commands = []) (hp : p.Stuck)
    (h : spec.scan p args = .ok (p', found)) : p'.Stuck := by
  induction args generalizing p with
  | nil =>
      cases h
      exact hp
  | cons arg rest ih =>
      rw [Spec.scan_cons hcommands] at h
      obtain ⟨p₁, hargument, hrest⟩ := exists_of_bind_eq_ok h
      exact ih (hp.argument hargument) hrest

theorem stuck_of_scan (hcommands : spec.commands = []) {arg : Argument} (hmem : arg ∈ args)
    (harg : arg.text? = none) (h : spec.scan p args = .ok (p', found)) : p'.Stuck := by
  induction args generalizing p with
  | nil => cases hmem
  | cons first rest ih =>
      rw [Spec.scan_cons hcommands] at h
      obtain ⟨p₁, hargument, hrest⟩ := exists_of_bind_eq_ok h
      rcases List.mem_cons.1 hmem with rfl | hmem
      · exact Progress.Stuck.scan hcommands (stuck_of_argument harg hargument) hrest
      · exact ih hmem hrest

end

/-- Where there are no commands, each argument of a command line that is read is a text. -/
theorem text?_ne_none_of_read {spec : Spec} (hcommands : spec.commands = []) {args : List Argument}
    {p : Progress} (h : spec.read args = .ok p) : ∀ arg ∈ args, arg.text? ≠ none := by
  intro arg hmem harg
  obtain ⟨⟨p₁, found⟩, hscan, hresolve⟩ := exists_of_bind_eq_ok h
  exact (stuck_of_scan hcommands hmem harg hscan).resolve_ne_ok hresolve

end MeshRegistry.CommandLine
