import ClimateStation.Light.Bank

/-! The strip, which shows the colours last latched onto it. -/
namespace ClimateStation.Light.Strip

def dark : Frame := Vector.replicate 4 .black

/-- Latches colours onto the strip from its first light on. Colours beyond the last light are
dropped, and lights without a colour go on as they were. -/
def latch (strip : Frame) (colours : List Colour) : Frame :=
  Vector.ofFn fun i => colours.getD i.val strip[i]

end ClimateStation.Light.Strip
