import MeshRegistry.Endpoint
import MeshRegistry.Proofs.Text.Blank
import MeshRegistry.Proofs.Text.Parts

/-!
# Which services share a key

The digits of a port hold no dash, so the last dash of a key stands in front of its port.  The dash
between the two labels cannot be told from a dash inside them: services of one port share a key just
when their labels join to the same text.
-/

namespace MeshRegistry

/-! ## Ports in digits -/

theorem dash_not_mem_toDigits (n : Nat) : '-' ∉ Nat.toDigits 10 n := by
  intro h
  have hdigit : '-'.isDigit = true := Nat.isDigit_of_mem_toDigits (by decide) (by decide) h
  cases hdigit

theorem eq_of_toDigits_eq {m n : Nat} (h : Nat.toDigits 10 m = Nat.toDigits 10 n) : m = n := by
  calc
    m = Nat.ofDigitChars 10 (Nat.toDigits 10 m) 0 := Nat.ofDigitChars_ten_toDigits.symm
    _ = Nat.ofDigitChars 10 (Nat.toDigits 10 n) 0 := by rw [h]
    _ = n := Nat.ofDigitChars_ten_toDigits

namespace ServiceKey

theorem toList_text_ofLabels (s e : String) (p : Port) :
    (ofLabels s e p).text.toList =
      (labelOrUnknown s ++ "-" ++ labelOrUnknown e).toList ++ '-' :: Nat.toDigits 10 p.toNat := by
  simp [ofLabels, Nat.repr_eq_ofList_toDigits]

theorem ofLabels_eq_iff {s e s' e' : String} {p p' : Port} :
    ofLabels s e p = ofLabels s' e' p' ↔
      p = p' ∧
        labelOrUnknown s ++ "-" ++ labelOrUnknown e =
          labelOrUnknown s' ++ "-" ++ labelOrUnknown e' := by
  have hport : Nat.toDigits 10 p.toNat = Nat.toDigits 10 p'.toNat ↔ p = p' := by
    rw [← UInt16.toNat_inj]
    exact ⟨eq_of_toDigits_eq, fun h => by rw [h]⟩
  have htext : ofLabels s e p = ofLabels s' e' p' ↔
      (ofLabels s e p).text.toList = (ofLabels s' e' p').text.toList := by
    rw [ServiceKey.mk.injEq, String.toList_inj]
  rw [htext, toList_text_ofLabels, toList_text_ofLabels,
    Text.append_last_border_inj (dash_not_mem_toDigits _) (dash_not_mem_toDigits _), hport,
    String.toList_inj, and_comm]

/-- Two labels can be told apart once they are joined, if there is no dash in the first. -/
theorem labels_eq_of_join_eq {s e s' e' : String} (hs : '-' ∉ s.toList) (hs' : '-' ∉ s'.toList)
    (h : s ++ "-" ++ e = s' ++ "-" ++ e') : s = s' ∧ e = e' := by
  have hlist := congrArg String.toList h
  simp only [String.toList_append, List.append_assoc] at hlist
  have hparts := (Text.append_first_border_inj hs hs').1 hlist
  exact ⟨String.toList_inj.1 hparts.1, String.toList_inj.1 hparts.2⟩

/-- What a label counts as: `unknown` if there is nothing but white space in it. -/
def countsAs (label : String) : String :=
  if label.toList.all fun c => Text.whiteSpace.contains c.toNat then "unknown" else label

theorem labelOrUnknown_eq_countsAs (label : String) : labelOrUnknown label = countsAs label := by
  rw [labelOrUnknown, countsAs, Text.allBlank_eq, unknownLabel]

/-- Keys are equal when the ports are and the labels, each `unknown` if it is missing, join to the
same text.  So endpoints with different ports have different keys, and a key settles both labels if
there is no dash in the first. -/
theorem ofLabels_collisions (s e s' e' : String) (p p' : Port) :
    (ofLabels s e p = ofLabels s' e' p' ↔
        p = p' ∧ countsAs s ++ "-" ++ countsAs e = countsAs s' ++ "-" ++ countsAs e') ∧
      (∀ a b : Endpoint, a.frontend.port ≠ b.frontend.port → a.key ≠ b.key) ∧
      ('-' ∉ (countsAs s).toList → '-' ∉ (countsAs s').toList →
        ofLabels s e p = ofLabels s' e' p' → countsAs s = countsAs s' ∧ countsAs e = countsAs e') := by
  simp only [← labelOrUnknown_eq_countsAs]
  refine ⟨ofLabels_eq_iff, ?_, ?_⟩
  · intro a b hport hkey
    exact hport (ofLabels_eq_iff.1 hkey).1
  · intro hs hs' hkey
    exact labels_eq_of_join_eq hs hs' (ofLabels_eq_iff.1 hkey).2

example : ofLabels "web-eu" "prod" 443 = ofLabels "web" "eu-prod" 443 := by decide

example : ofLabels " " "prod" 443 = ofLabels "unknown" "prod" 443 := by decide

end ServiceKey

end MeshRegistry
