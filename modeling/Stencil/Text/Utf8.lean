import Stencil.Text.Basic

/-!
Texts as bytes in UTF-8. Reading the bytes of a text gives it back; not all bytes are those of a text.
-/
namespace Stencil.Text

def toUtf8 (t : Text) : ByteArray :=
  (String.ofList t).toUTF8

-- The text that the bytes are the UTF-8 form of.
def ofUtf8? (bytes : ByteArray) : Option Text :=
  (String.fromUTF8? bytes).map String.toList

def ofByteList (bytes : List UInt8) : ByteArray :=
  ⟨bytes.toArray⟩

-- The bytes without a byte order mark at their start.
def withoutMark (bytes : ByteArray) : ByteArray :=
  match bytes.data.toList with
  | 0xef :: 0xbb :: 0xbf :: rest => ofByteList rest
  | _ => bytes

-- The parts of some bytes, each with the byte that ends it.
def byteParts (last : UInt8) (bytes : ByteArray) : List ByteArray :=
  (go bytes.data.toList).map ofByteList
where
  go : List UInt8 → List (List UInt8)
    | [] => []
    | b :: rest =>
      if b = last then [b] :: go rest
      else match go rest with
        | part :: parts => (b :: part) :: parts
        | [] => [[b]]

end Stencil.Text
