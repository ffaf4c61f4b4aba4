import RackElevation.Raster.Canvas

/-!
# Canvases as PNG data

PNG data is a signature and a row of chunks.  A chunk has the length of its data, a name of four
letters, the data, and a checksum over name and data.  A canvas needs three chunks: its size and
depth, its pixels, and the end.

The pixels are the bytes of all rows, each row after a zero that says that it is not filtered.  They
are packed as blocks that are stored as they are, so nothing is compressed.
-/

namespace RackElevation.Raster

namespace Png

/-- The four bytes of a word, the highest first. -/
def wordBytes (w : UInt32) : ByteArray :=
  ⟨#[(w >>> 24).toUInt8, (w >>> 16).toUInt8, (w >>> 8).toUInt8, w.toUInt8]⟩

/-- Two bytes for a number below 65536, the lower one first. -/
def pairBytes (n : UInt16) : ByteArray :=
  ⟨#[n.toUInt8, (n >>> 8).toUInt8]⟩

/-! ## Checksums -/

/-- One bit of the remainder that `crc` is made of. -/
def crcBit (remainder : UInt32) : UInt32 :=
  if remainder &&& 1 = 1 then (remainder >>> 1) ^^^ 0xEDB88320 else remainder >>> 1

/-- The cyclic redundancy check of a chunk. -/
def crc (data : ByteArray) : UInt32 :=
  data.foldl (fun remainder byte => Nat.repeat crcBit 8 (remainder ^^^ byte.toUInt32))
    0xFFFFFFFF ^^^ 0xFFFFFFFF

/-- The modulus of both sums of `adler`. -/
def adlerModulus : UInt32 := 65521

/-- The checksum of packed data: one more than the sum of the bytes, and the sum of all sums on the
way. -/
def adler (data : ByteArray) : UInt32 :=
  let sums := data.foldl (fun sums byte =>
    let low := (sums.1 + byte.toUInt32) % adlerModulus
    (low, (sums.2 + low) % adlerModulus)) ((1, 0) : UInt32 × UInt32)
  (sums.2 <<< 16) ||| sums.1

/-! ## Parts -/

/-- A chunk of a given name. -/
def chunk (name : String) (data : ByteArray) : ByteArray :=
  let body := name.toUTF8 ++ data
  wordBytes data.size.toUInt32 ++ body ++ wordBytes (crc body)

/-- The most bytes in a stored block. -/
def blockLimit : Nat := 65535

/-- A stored block, marked as the last one or not. -/
def block (isLast : Bool) (data : ByteArray) : ByteArray :=
  let size := data.size.toUInt16
  ⟨#[if isLast then 1 else 0]⟩ ++ pairBytes size ++ pairBytes (~~~ size) ++ data

/-- Data packed in stored blocks. -/
def packed (data : ByteArray) : ByteArray :=
  let count := (data.size + blockLimit - 1) / blockLimit
  let blocks := (List.range count).map fun i =>
    block (i + 1 == count) (data.extract (i * blockLimit) ((i + 1) * blockLimit))
  blocks.foldl (· ++ ·) ⟨#[0x78, 0x01]⟩ ++ wordBytes (adler data)

/-- Data with some bytes put after it several times. -/
def pushTimes (n : Nat) (bytes data : ByteArray) : ByteArray :=
  Nat.repeat (· ++ bytes) n data

/-- The bytes of a pixel. -/
def pixelBytes (p : Pixel) : ByteArray :=
  ⟨#[p.red.toUInt8, p.green.toUInt8, p.blue.toUInt8]⟩

/-- The bytes of a row of runs, after the zero. -/
def rowBytes (runs : List (Nat × Pixel)) : ByteArray :=
  runs.foldl (fun data run => pushTimes run.1 (pixelBytes run.2) data) ⟨#[0]⟩

/-- The bytes of all rows. -/
def rasterBytes (rows : List (Nat × List (Nat × Pixel))) : ByteArray :=
  rows.foldl (fun data row => pushTimes row.1 (rowBytes row.2) data) .empty

/-- The bytes that PNG data starts with. -/
def signature : ByteArray :=
  ⟨#[0x89, 0x50, 0x4E, 0x47, 0x0D, 0x0A, 0x1A, 0x0A]⟩

/-- The size, eight bits for each of red, green and blue, and no interlacing. -/
def header (width height : Int) : ByteArray :=
  wordBytes width.toNat.toUInt32 ++ wordBytes height.toNat.toUInt32 ++ ⟨#[8, 2, 0, 0, 0]⟩

end Png

/-- The PNG data of a canvas. -/
def Canvas.png (canvas : Canvas) : ByteArray :=
  Png.signature ++ Png.chunk "IHDR" (Png.header canvas.width canvas.height) ++
    Png.chunk "IDAT" (Png.packed (Png.rasterBytes canvas.rows)) ++ Png.chunk "IEND" .empty

end RackElevation.Raster
