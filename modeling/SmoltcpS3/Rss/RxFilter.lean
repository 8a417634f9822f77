import SmoltcpS3.Rss.Selection

namespace SmoltcpS3.Rss

def l4Offset (b₁₄ : UInt8) : ℕ := 14 + (b₁₄ &&& 0x0f).toNat * 4

def dstPort (hi lo : UInt8) : UInt16 := hi.toUInt16 <<< 8 ||| lo.toUInt16

/-- The filter on one frame: `some false` is a misrouted frame, `none` an index past its end. The
absent bitmap accepts all ports. -/
def portFilter (ownedPorts : Option OwnedBitmap) (bytes : List UInt8) : Option Bool :=
  if bytes.length < 54 then some true
  else do
    let b₁₂ ← bytes[12]?
    let b₁₃ ← bytes[13]?
    if ¬ (b₁₂ = 0x08 ∧ b₁₃ = 0x00) then some true
    else
      let b₁₄ ← bytes[14]?
      let proto ← bytes[23]?
      let l4 := l4Offset b₁₄
      if proto ≠ 6 ∨ l4 + 4 > bytes.length then some true
      else
        let hi ← bytes[l4 + 2]?
        let lo ← bytes[l4 + 3]?
        some (ownedPorts.all fun bitmap => ownsPort bitmap (dstPort hi lo))

def frameDstPort (bytes : List UInt8) : Option UInt16 :=
  if bytes.getD 12 0 = 0x08 ∧ bytes.getD 13 0 = 0x00 ∧ bytes.getD 23 0 = 6 ∧
      l4Offset (bytes.getD 14 0) + 4 ≤ bytes.length then
    some (dstPort (bytes.getD (l4Offset (bytes.getD 14 0) + 2) 0)
      (bytes.getD (l4Offset (bytes.getD 14 0) + 3) 0))
  else none

lemma getElem?_eq_some_getD {bytes : List UInt8} {i : ℕ} (h : i < bytes.length) :
    bytes[i]? = some (bytes.getD i 0) := by
  rw [List.getElem?_eq_getElem h, List.getD_eq_getElem _ _ h]

theorem portFilter_eq (ownedPorts : Option OwnedBitmap) (bytes : List UInt8) :
    portFilter ownedPorts bytes = some (bytes.length < 54 || (frameDstPort bytes).all fun port =>
      ownedPorts.all fun bitmap => ownsPort bitmap port) := by
  rw [portFilter, frameDstPort]
  by_cases hlen : bytes.length < 54
  · simp [hlen]
  · simp only [hlen, if_false, decide_false, Bool.false_or, getElem?_eq_some_getD (show 12 < bytes.length by omega),
      getElem?_eq_some_getD (show 13 < bytes.length by omega),
      getElem?_eq_some_getD (show 14 < bytes.length by omega),
      getElem?_eq_some_getD (show 23 < bytes.length by omega), Option.bind_eq_bind, Option.bind_some]
    by_cases hip : bytes.getD 12 0 = 0x08 ∧ bytes.getD 13 0 = 0x00
    · by_cases htcp : bytes.getD 23 0 = 6 ∧ l4Offset (bytes.getD 14 0) + 4 ≤ bytes.length
      · have hn : ¬ (bytes.getD 23 0 ≠ 6 ∨ l4Offset (bytes.getD 14 0) + 4 > bytes.length) := by
          rintro (h | h)
          · exact h htcp.1
          · exact absurd htcp.2 (not_le.mpr h)
        rw [if_neg (not_not.mpr hip), if_neg hn, if_pos ⟨hip.1, hip.2, htcp.1, htcp.2⟩,
          getElem?_eq_some_getD (by omega), getElem?_eq_some_getD (by omega)]
        rfl
      · have hy : bytes.getD 23 0 ≠ 6 ∨ l4Offset (bytes.getD 14 0) + 4 > bytes.length :=
          (not_and_or.mp htcp).imp_right not_le.mp
        rw [if_neg (not_not.mpr hip), if_pos hy, if_neg fun h => htcp ⟨h.2.2.1, h.2.2.2⟩]
        rfl
    · rw [if_pos hip, if_neg fun h => hip ⟨h.1, h.2.1⟩]
      rfl

lemma portFilter_myPorts {cfg : Config} {rss : RssConfig} {ourIp : Ipv4Address} {q p : UInt16}
    (hp : p ∈ myPorts cfg rss ourIp q) {frame : List UInt8} (hf : frameDstPort frame = some p) :
    portFilter (some (ownedBitmap cfg rss ourIp q)) frame = some true := by
  rw [portFilter_eq, hf]
  simp [(mem_myPorts hp).2.1]

end SmoltcpS3.Rss
