/-! Sixteen-bit numbers as two bytes, the low byte first. -/
namespace ClimateStation.Binary

def lowHigh (n : Nat) : List UInt8 := [UInt8.ofNat (n % 256), UInt8.ofNat (n / 256 % 256)]

/-- The number whose low and high bytes are given. -/
def ofLowHigh (low high : UInt8) : Nat := low.toNat + 256 * high.toNat

theorem ofLowHigh_lt (low high : UInt8) : ofLowHigh low high < 65536 := by
  have := low.toNat_lt
  have := high.toNat_lt
  unfold ofLowHigh
  omega

/-- Writing and reading back keeps the lowest sixteen bits. -/
theorem ofLowHigh_lowHigh (n : Nat) :
    ofLowHigh (UInt8.ofNat (n % 256)) (UInt8.ofNat (n / 256 % 256)) = n % 65536 := by
  simp only [ofLowHigh, UInt8.toNat_ofNat']
  omega

/-- A signed number is stored as the sixteen bits of its two's complement. -/
def signedBytes (i : Int16) : List UInt8 := lowHigh i.toUInt16.toNat

def signedOfBytes (low high : UInt8) : Int16 := (UInt16.ofNat (ofLowHigh low high)).toInt16

end ClimateStation.Binary
