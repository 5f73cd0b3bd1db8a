/-!
# Digests

A 64-bit digest of a byte sequence, used where a recording names bulk data without holding it.
-/

namespace Chip8.Digest

/-- The FNV-1a digest: each byte is mixed in by exclusive or, then spread by the FNV prime. -/
def fnv1a (bytes : Array UInt8) : UInt64 :=
  bytes.foldl (fun hash byte => (hash ^^^ byte.toUInt64) * 0x100000001b3) 0xcbf29ce484222325

end Chip8.Digest
