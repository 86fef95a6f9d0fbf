/-
The form of fieldbus parameters in a file.
-/
import BoomWalker.Fieldbus.Params
import BoomWalker.Json.Decode
import BoomWalker.Word

namespace BoomWalker

def SimParams.ofJson? (v : Json) : Option (SimParams Float) := do
  let [slaves, cycles, gain, constant] ← v.fields?
    ["num_slaves", "link_up_cycles", "plant_gain", "plant_time_constant_s"] | none
  return {
    numSlaves := ← slaves.asNatural? Word.max16
    linkUpCycles := ← cycles.asNatural? Word.max32
    plantGain := ← gain.asReal?
    plantTimeConstant := ← constant.asReal? }

def SimParams.toJson (p : SimParams Float) : Json :=
  .obj [("num_slaves", .int p.numSlaves), ("link_up_cycles", .int p.linkUpCycles),
    ("plant_gain", .real p.plantGain), ("plant_time_constant_s", .real p.plantTimeConstant)]

namespace FieldbusParams

def ofJson? (v : Json) : Option (FieldbusParams Float) := do
  let [index, vendor, codes, period, offset, assign, guardDelay, refClock, sim] ← v.fields?
    ["master_index", "vendor_id", "product_codes", "cycle_period_ns", "dc_offset_ns",
      "dc_assign_activate", "guard_delay_us", "ref_clock_sync_cycles", "sim"] | none
  return {
    masterIndex := ← index.asNatural? Word.max32
    vendor := ← vendor.asNatural? Word.max32
    productCodes := ← (← codes.asList?).mapM (Json.asNatural? Word.max32)
    cyclePeriod := ← period.asNatural? Word.max64
    clockOffset := ← offset.asNatural? Word.max64
    clockAssign := ← assign.asNatural? Word.max16
    guardDelay := ← guardDelay.asNatural? Word.max64
    refClockCycles := ← refClock.asNatural? Word.max32
    sim := ← SimParams.ofJson? sim }

def toJson (p : FieldbusParams Float) : Json :=
  .obj [("master_index", .int p.masterIndex), ("vendor_id", .int p.vendor),
    ("product_codes", .arr (p.productCodes.map fun (n : Nat) => .int n)),
    ("cycle_period_ns", .int p.cyclePeriod), ("dc_offset_ns", .int p.clockOffset),
    ("dc_assign_activate", .int p.clockAssign), ("guard_delay_us", .int p.guardDelay),
    ("ref_clock_sync_cycles", .int p.refClockCycles), ("sim", p.sim.toJson)]

end FieldbusParams

end BoomWalker
