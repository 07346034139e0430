/-! The least numbers that do not fit into some number of bits. -/
namespace OnfiFlash

def limit8 : Nat := 0x100

def limit16 : Nat := 0x10000

def limit32 : Nat := 0x100000000

def limit63 : Nat := 0x8000000000000000

def limit64 : Nat := 0x10000000000000000

def checked32 (value : Nat) : Option Nat := if value < limit32 then some value else none

end OnfiFlash
