import Mathlib.Tactic.SplitIfs
import MeshRegistry.CommandLine.Scan

/-!
# What was typed

An option has the value that stands behind it on the command line, or behind its equals sign.  While
arguments are read it is known of each option so far, and of the one whose value is still to be checked.
-/

namespace MeshRegistry.CommandLine

theorem exists_of_bind_eq_ok {ε α β : Type} {x : Except ε α} {f : α → Except ε β} {b : β}
    (h : x >>= f = .ok b) : ∃ a, x = .ok a ∧ f a = .ok b := by
  cases x with
  | error e => cases h
  | ok a => exact ⟨a, rfl, h⟩

/-- The arguments give an option a value, in one of the two ways to write it. -/
def Gives (args : List String) (name value : String) : Prop :=
  (∃ before behind, args = before ++ ("--" ++ name) :: value :: behind) ∨
    "--" ++ name ++ "=" ++ value ∈ args

theorem Gives.append {args : List String} {name value : String} (h : Gives args name value)
    (more : List String) : Gives (args ++ more) name value := by
  rcases h with ⟨before, behind, rfl⟩ | h
  · exact .inl ⟨before, behind ++ more, by simp⟩
  · exact .inr (List.mem_append_left more h)

theorem eq_of_behindDashes? {α : Type} [BEq α] [LawfulBEq α] {dash : α} {l word : List α}
    (h : behindDashes? dash l = some word) : l = dash :: dash :: word := by
  unfold behindDashes? at h
  split at h
  next a b rest =>
    rw [Option.ite_none_right_eq_some, Bool.and_eq_true, beq_iff_eq, beq_iff_eq] at h
    obtain ⟨⟨rfl, rfl⟩, hword⟩ := h
    cases hword
    rfl
  next => cases h

theorem not_option {arg : String} (h : arg.toList.head? ≠ some '-') :
    (Argument.text arg).long? = none ∧ (Argument.text arg).short? = none := by
  constructor
  · rw [Argument.long?, Option.map_eq_none_iff, Option.eq_none_iff_forall_ne_some]
    intro word hword
    rw [eq_of_behindDashes? hword] at h
    exact h rfl
  · unfold Argument.short?
    dsimp only
    split
    next harg =>
      rw [harg] at h
      exact absurd rfl h
    next => rfl

/-- A word is its two parts with the sign between them, or has no sign. -/
theorem eq_of_splitAtSign {α : Type} [BEq α] [LawfulBEq α] {sign : α} {word name : List α}
    {value : Option (List α)} (h : splitAtSign sign word = (name, value)) :
    (value = none ∧ word = name) ∨ ∃ v, value = some v ∧ word = name ++ sign :: v := by
  obtain ⟨rfl, hvalue⟩ := Prod.mk.inj h
  have hword := List.takeWhile_append_dropWhile (p := (· != sign)) (l := word)
  split at hvalue
  next hnothing =>
    rw [hnothing, List.append_nil] at hword
    exact .inl ⟨hvalue.symm, hword.symm⟩
  next c v hbehind =>
    have hsign : c = sign := by
      have hends := List.head?_dropWhile_not (· != sign) word
      rw [hbehind] at hends
      simpa using hends
    rw [hbehind, hsign] at hword
    exact .inr ⟨v, hvalue.symm, hword.symm⟩

/-- A long option is its name behind two dashes, perhaps with a value behind an equals sign. -/
theorem eq_of_long? {arg : String} {name : Option String} {value : Option Argument}
    (h : (Argument.text arg).long? = some (name, value)) :
    ∃ n, name = some n ∧
      ((value = none ∧ arg = "--" ++ n) ∨
        ∃ v, value = some (.text v) ∧ arg = "--" ++ n ++ "=" ++ v) := by
  rw [Argument.long?, Option.map_eq_some_iff] at h
  obtain ⟨word, hword, h⟩ := h
  have harg := eq_of_behindDashes? hword
  cases hsplit : splitAtSign '=' word with
  | mk n v =>
      rw [hsplit] at h
      cases h
      refine ⟨String.ofList n, rfl, ?_⟩
      rcases eq_of_splitAtSign hsplit with ⟨rfl, rfl⟩ | ⟨v, rfl, rfl⟩
      · refine .inl ⟨rfl, ?_⟩
        rw [← String.toList_inj]
        simp [harg]
      · refine .inr ⟨String.ofList v, rfl, ?_⟩
        rw [← String.toList_inj]
        simp [harg]

/-! ## Reading on -/

/-- Where there are no commands, argument after argument is read. -/
theorem Spec.scan_cons {spec : Spec} (hcommands : spec.commands = []) (p : Progress)
    (arg : Argument) (rest : List Argument) :
    spec.scan p (arg :: rest) = spec.argument p arg >>= fun p => spec.scan p rest := by
  have hcommand : spec.command? arg = none := by
    rw [Spec.command?, hcommands]
    cases arg.text? <;> rfl
  rw [Spec.scan, hcommand, ite_self]
  cases spec.argument p arg <;> rfl

/-- What is known of the progress when these arguments have been read. -/
structure Progress.Follows (p : Progress) (args : List String) : Prop where
  given : ∀ g ∈ p.given, Gives args g.1 g.2
  checked : ∀ o value, p.pending = some (o, some value) →
    ∃ v, value = .text v ∧ Gives args o.name v
  awaited : ∀ o, p.pending = some (o, none) →
    p.isLiteral = true ∨ ∃ before, args = before ++ ["--" ++ o.name]

namespace Progress.Follows

variable {p p' : Progress} {args : List String} {spec : Spec}

theorem start : Progress.start.Follows [] where
  given := by simp [Progress.start]
  checked := by simp [Progress.start]
  awaited := by simp [Progress.start]

/-- When nothing is pending, what is known stays so as more is read. -/
theorem append (h : p.Follows args) (hp : p.pending = none) (more : List String) :
    p.Follows (args ++ more) where
  given := fun g hg => (h.given g hg).append more
  checked := by simp [hp]
  awaited := by simp [hp]

theorem take (h : ∀ g ∈ p.given, Gives args g.1 g.2) {o : Opt} {value : String}
    (hvalue : Gives args o.name value) (htake : p.take o (.text value) = .ok p') :
    p'.Follows args ∧ p'.pending = none := by
  unfold Progress.take at htake
  dsimp only at htake
  split_ifs at htake
  cases htake
  refine ⟨⟨?_, by simp, by simp⟩, rfl⟩
  rw [List.forall_mem_append, List.forall_mem_singleton]
  exact ⟨h, hvalue⟩

theorem resolve (h : p.Follows args) (hp : p.resolve = .ok p') :
    p'.Follows args ∧ p'.pending = none := by
  unfold Progress.resolve at hp
  split_ifs at hp
  split at hp
  next hnone =>
    cases hp
    exact ⟨h, hnone⟩
  next => cases hp
  next o value hsome =>
    obtain ⟨v, rfl, hgives⟩ := h.checked o value hsome
    exact take h.given hgives hp

theorem positional (h : p.Follows args) {arg : String}
    (hp : spec.positional p (.text arg) = .ok p') : p'.Follows (args ++ [arg]) := by
  unfold Spec.positional at hp
  split_ifs at hp
  obtain ⟨p₁, hresolve, hp⟩ := exists_of_bind_eq_ok hp
  cases hp
  obtain ⟨hfollows, hnone⟩ := h.resolve hresolve
  have hafter := hfollows.append hnone [arg]
  exact ⟨hafter.given, hafter.checked, hafter.awaited⟩

theorem long (hvalues : ∀ o ∈ spec.options, o.takesValue = true) (h : p.Follows args)
    {arg name : String} {value : Option Argument}
    (harg : (Argument.text arg).long? = some (some name, value))
    (hp : spec.long p name value = .ok p') : p'.Follows (args ++ [arg]) := by
  obtain ⟨n, hn, htyped⟩ := eq_of_long? harg
  obtain rfl := Option.some.inj hn
  unfold Spec.long at hp
  cases hfind : spec.options.find? (·.name = name) with
  | none =>
      simp only [hfind] at hp
      split_ifs at hp
  | some o =>
      have hname : o.name = name := by simpa using List.find?_some hfind
      simp only [hfind, hvalues o (List.mem_of_find?_eq_some hfind), if_true] at hp
      rcases htyped with ⟨rfl, htyped⟩ | ⟨v, rfl, htyped⟩
      · obtain ⟨p₁, hresolve, hp⟩ := exists_of_bind_eq_ok hp
        cases hp
        obtain ⟨hfollows, hnone⟩ := h.resolve hresolve
        refine ⟨(hfollows.append hnone [arg]).given, by simp, ?_⟩
        rintro o' heq
        cases heq
        exact .inr ⟨args, by rw [hname, htyped]⟩
      · obtain ⟨p₁, hresolve, hp⟩ := exists_of_bind_eq_ok hp
        obtain ⟨p₂, htake, hp⟩ := exists_of_bind_eq_ok hp
        cases hp
        obtain ⟨hfollows, hnone⟩ := h.resolve hresolve
        have hgives : Gives (args ++ [arg]) o.name v := .inr (by rw [hname, ← htyped]; simp)
        exact (take (hfollows.append hnone [arg]).given hgives htake).1

/-- What one more argument tells. -/
theorem argument (hvalues : ∀ o ∈ spec.options, o.takesValue = true) (h : p.Follows args)
    {arg : String} (hp : spec.argument p (.text arg) = .ok p') : p'.Follows (args ++ [arg]) := by
  unfold Spec.argument at hp
  split_ifs at hp with hliteral hdashes
  · exact h.positional hp
  · cases hp
    refine ⟨fun g hg => (h.given g hg).append _, ?_, fun _ _ => .inl rfl⟩
    intro o value ho
    obtain ⟨v, rfl, hgives⟩ := h.checked o value ho
    exact ⟨v, rfl, hgives.append _⟩
  · split at hp
    next hlong => exact h.long hvalues hlong hp
    next => cases hp
    next => cases hp
    next o _ _ hpending =>
      cases hp
      refine ⟨fun g hg => (h.given g hg).append _, ?_, by simp⟩
      rintro o' v heq
      cases heq
      obtain hopen | ⟨before, rfl⟩ := h.awaited o hpending
      · exact absurd hopen hliteral
      · exact ⟨arg, rfl, .inl ⟨before, [], by simp⟩⟩
    next => exact h.positional hp

/-- A scan stops at a command or at the end, and knows what was typed up to there. -/
theorem scan (hvalues : ∀ o ∈ spec.options, o.takesValue = true) (h : p.Follows args)
    {rest : List String} {found : Option (String × List Argument)}
    (hp : spec.scan p (rest.map .text) = .ok (p', found)) :
    ∃ read behind, rest = read ++ behind ∧ p'.Follows (args ++ read) ∧
      ∀ name after, found = some (name, after) →
        ∃ texts, after = texts.map .text ∧ behind = name :: texts := by
  induction rest generalizing p args with
  | nil =>
      cases hp
      exact ⟨[], [], rfl, by rwa [List.append_nil], by simp⟩
  | cons arg rest ih =>
      rw [List.map_cons, Spec.scan] at hp
      split at hp
      next name hcommand =>
        cases hp
        rw [Option.ite_none_left_eq_some, Spec.command?, Option.filter_eq_some_iff] at hcommand
        obtain ⟨-, hname, -⟩ := hcommand
        obtain rfl := Option.some.inj hname
        refine ⟨[], arg :: rest, rfl, by rwa [List.append_nil], ?_⟩
        rintro name after heq
        cases heq
        exact ⟨rest, rfl, rfl⟩
      next =>
        split at hp
        next => cases hp
        next p₁ hargument =>
          obtain ⟨read, behind, rfl, hfollows, hfound⟩ := ih (h.argument hvalues hargument) hp
          exact ⟨arg :: read, behind, rfl, by rwa [List.append_assoc] at hfollows, hfound⟩

end Progress.Follows

/-- The value of an option was typed for it. -/
theorem gives_of_value? {spec : Spec} (hvalues : ∀ o ∈ spec.options, o.takesValue = true)
    {args : List String} {p : Progress} (h : spec.read (args.map .text) = .ok p)
    {name value : String} (hvalue : p.value? name = some value) : Gives args name value := by
  obtain ⟨⟨p₁, found⟩, hscan, hresolve⟩ := exists_of_bind_eq_ok h
  obtain ⟨read, behind, rfl, hfollows, -⟩ := Progress.Follows.start.scan hvalues hscan
  obtain ⟨hresolved, -⟩ := hfollows.resolve hresolve
  rw [List.nil_append] at hresolved
  rw [Progress.value?, Option.map_eq_some_iff] at hvalue
  obtain ⟨⟨name', value'⟩, hfind, rfl⟩ := hvalue
  obtain rfl : name' = name := by simpa using List.find?_some hfind
  exact (hresolved.given _ (List.mem_of_find?_eq_some hfind)).append _

/-- A scan that found a command stopped in front of it. -/
theorem exists_of_scan_eq_some {spec : Spec} (hvalues : ∀ o ∈ spec.options, o.takesValue = true)
    {args : List String} {behind : List Argument} {p : Progress} {name : String}
    (h : spec.scan .start (args.map .text) = .ok (p, some (name, behind))) :
    ∃ front texts, behind = texts.map .text ∧ args = front ++ name :: texts := by
  obtain ⟨read, rest, hargs, -, hfound⟩ := Progress.Follows.start.scan hvalues h
  obtain ⟨texts, hbehind, rfl⟩ := hfound name behind rfl
  exact ⟨read, texts, hbehind, hargs⟩

end MeshRegistry.CommandLine
