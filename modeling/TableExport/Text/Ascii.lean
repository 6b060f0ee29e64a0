/-! # ASCII characters

A property of all characters below U+0080 can be checked number by number. -/

namespace TableExport.Text

theorem forall_ascii {p : Char → Prop} (h : ∀ n : Fin 128, p (Char.ofNat n)) (c : Char)
    (hc : c.toNat < 128) : p c := by
  have := h ⟨c.toNat, hc⟩
  rwa [Char.ofNat_toNat] at this

end TableExport.Text
