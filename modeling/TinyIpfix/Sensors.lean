import TinyIpfix.HwModule

/-! The functions of hw_module/sky.c that read values. The devices behind them are an input,
with their values as the assignments convert them. -/

namespace TinyIpfix

structure Devices where
  temp : UInt16
  humid : UInt16
  lightPhoto : UInt16
  lightTotal : UInt16
  battery : UInt16
  clockSeconds : UInt32
  lladdr : Fin 8 → UInt8

def readTemp (devices : Devices) : UInt16 := devices.temp

def readHumid (devices : Devices) : UInt16 := devices.humid

def readLightPhoto (devices : Devices) : UInt16 := devices.lightPhoto

def readLightTotal (devices : Devices) : UInt16 := devices.lightTotal

def readBattery (devices : Devices) : UInt16 := devices.battery

def readTime (devices : Devices) : UInt32 := devices.clockSeconds

/-- The last two octets of the MAC address. -/
def readId (devices : Devices) : UInt16 := (devices.lladdr 6).toUInt16 <<< 8 ||| (devices.lladdr 7).toUInt16

/-- The number that a node is known by, of its MAC address. -/
def nodeId (lladdr : Fin 8 → UInt8) : Nat := (lladdr 6).toNat * 256 + (lladdr 7).toNat

/-- Push. -/
def readPull (_ : Devices) : UInt8 := 0

/-- The function pointers that `init_template` puts in the table, by position. -/
def sensVal (devices : Devices) : Nat → UInt64
  | 0 => (readTemp devices).toUInt64
  | 1 => (readHumid devices).toUInt64
  | 2 => (readLightPhoto devices).toUInt64
  | 3 => (readLightTotal devices).toUInt64
  | 4 => (readBattery devices).toUInt64
  | 5 => (readTime devices).toUInt64
  | 6 => (readId devices).toUInt64
  | 7 => (readPull devices).toUInt64
  | _ => 0

end TinyIpfix
