/-! # Identifier bitfields
One word names the kind of an object in its low byte, its instance number in the two bytes above, and
attributes in the high byte; the topmost bit marks a request as optional. A second word holds flags. -/

namespace GamepadPool

namespace TypeBits

def relativeAxis : UInt32 := 0x01
def absoluteAxis : UInt32 := 0x02
def axis : UInt32 := relativeAxis ||| absoluteAxis
def pushButton : UInt32 := 0x04
def toggleButton : UInt32 := 0x08
def button : UInt32 := pushButton ||| toggleButton
def pov : UInt32 := 0x10
def collection : UInt32 := 0x40
def noData : UInt32 := 0x80

/-- Every bit that names a class of objects. -/
def anyClass : UInt32 := axis ||| button ||| pov ||| collection ||| noData

/-- The instance bits, and the instance number that accepts any other. -/
def anyInstance : UInt32 := 0x00FFFF00

def optional : UInt32 := 0x80000000

def ofInstance (n : UInt16) : UInt32 := n.toUInt32 <<< 8

def instanceOf (bits : UInt32) : UInt16 := (bits >>> 8).toUInt16

/-- The collection a filter of an enumeration names. -/
def collectionOf (bits : UInt32) : UInt16 := ((bits &&& 0xFFFF) >>> 8).toUInt16

end TypeBits

namespace ObjectFlags

def position : UInt32 := 0x100
def anyAspect : UInt32 := 0xF00

end ObjectFlags
end GamepadPool
