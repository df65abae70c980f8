import SnippetReview.Json.Token

/-!
# Reading JSON

`Json.ofBytes?` reads bytes, `Json.ofText?` a text and `Json.ofTokens?` tokens. The tokens are
put together from left to right. The containers that are still open are kept on a stack,
innermost first. How deep they may be nested depends on where the program runs, and is told to all
three. Bytes are read in the encoding that their first bytes tell: by a byte order mark, or by where
the zero bytes of the first character stand. Surrogates may pass.
-/

namespace SnippetReview

namespace Json

/-- A container that is still open: what it holds so far, latest first, and for an object the key
whose value is awaited. No key that is asked for holds a lone surrogate or what stands for one. -/
inductive Frame
  | items (done : List Json)
  | members (done : List (Text × Json)) (key : Text)

/-- What has to come next. -/
inductive Expected
  /-- A value. -/
  | value
  /-- The first item of an array, or its end. -/
  | itemOrEnd
  /-- The first key of an object, or its end. -/
  | keyOrEnd
  /-- Another key of an object that holds the given members. -/
  | key (done : List (Text × Json))
  /-- The colon after a key. -/
  | colon (done : List (Text × Json)) (key : Text)
  /-- A comma or the end of the innermost container, which now ends in the given value; with no
  container open, the end of the text. -/
  | more (value : Json)

/-- A reading under way. -/
structure Reading where
  frames : List Frame
  depth : Nat
  expected : Expected

namespace Reading

/-- Opens a container; `maxDepth` is how many may be open around it. -/
def push (maxDepth : Nat) (r : Reading) (f : List Frame) (e : Expected) : Option Reading :=
  if maxDepth < r.depth then none else some ⟨f, r.depth + 1, e⟩

/-- Reads the start of a value. -/
def value (maxDepth : Nat) (r : Reading) : Token → Option Reading
  | .scalar v => some ⟨r.frames, r.depth, .more v⟩
  | .openBracket => r.push maxDepth (.items [] :: r.frames) .itemOrEnd
  | .openBrace => r.push maxDepth r.frames .keyOrEnd
  | _ => none

/-- Reads a key, after which a colon has to come. -/
def key (r : Reading) (done : List (Text × Json)) : Token → Option Reading
  | .scalar v => v.text?.map fun k => ⟨r.frames, r.depth, .colon done k⟩
  | _ => none

/-- Reads what follows a value in the innermost open container. -/
def more (r : Reading) (v : Json) : Token → Option Reading
  | .comma =>
    match r.frames with
    | .items done :: fs => some ⟨.items (v :: done) :: fs, r.depth, .value⟩
    | .members done k :: fs => some ⟨fs, r.depth, .key ((k, v) :: done)⟩
    | [] => none
  | .closeBracket =>
    match r.frames with
    | .items done :: fs => some ⟨fs, r.depth - 1, .more (.array (v :: done).reverse)⟩
    | _ => none
  | .closeBrace =>
    match r.frames with
    | .members done k :: fs => some ⟨fs, r.depth - 1, .more (.object ((k, v) :: done).reverse)⟩
    | _ => none
  | _ => none

/-- Reads a token. -/
def step (maxDepth : Nat) (r : Reading) (t : Token) : Option Reading :=
  match r.expected with
  | .value => r.value maxDepth t
  | .itemOrEnd =>
    match t, r.frames with
    | .closeBracket, .items _ :: fs => some ⟨fs, r.depth - 1, .more (.array [])⟩
    | _, _ => r.value maxDepth t
  | .keyOrEnd =>
    match t with
    | .closeBrace => some ⟨r.frames, r.depth - 1, .more (.object [])⟩
    | _ => r.key [] t
  | .key done => r.key done t
  | .colon done k =>
    match t with
    | .colon => some ⟨.members done k :: r.frames, r.depth, .value⟩
    | _ => none
  | .more v => r.more v t

/-- The value read when the text has ended. -/
def finish? (r : Reading) : Option Json :=
  match r.frames, r.expected with
  | [], .more v => some v
  | _, _ => none

end Reading

/-- The value that tokens are the form of. -/
def ofTokens? (maxDepth : Nat) (ts : List Token) : Option Json :=
  (ts.foldlM (Reading.step maxDepth) ⟨[], 0, .value⟩).bind Reading.finish?

/-- The value that a text is the form of. -/
def ofText? (maxDepth : Nat) (s : RawText) : Option Json :=
  (Token.scan s).bind (ofTokens? maxDepth)

/-! ## Encodings -/

/-- The encodings of a JSON text. -/
inductive Encoding
  | utf8
  | utf16 (order : ByteOrder)
  | utf32 (order : ByteOrder)
  deriving DecidableEq

/-- The encoding of bytes, and the bytes without the byte order mark. -/
def detect (bytes : Bytes) : Encoding × Bytes :=
  match bytes with
  | 0x00 :: 0x00 :: 0xFE :: 0xFF :: rest => (.utf32 .big, rest)
  | 0xFF :: 0xFE :: 0x00 :: 0x00 :: rest => (.utf32 .little, rest)
  | 0xFE :: 0xFF :: rest => (.utf16 .big, rest)
  | 0xFF :: 0xFE :: rest => (.utf16 .little, rest)
  | 0xEF :: 0xBB :: 0xBF :: rest => (.utf8, rest)
  | a :: b :: c :: d :: _ =>
    if a = 0 then (if b = 0 then .utf32 .big else .utf16 .big, bytes)
    else if b = 0 then (if c = 0 ∧ d = 0 then .utf32 .little else .utf16 .little, bytes)
    else (.utf8, bytes)
  | [a, b] =>
    (if a = 0 then .utf16 .big else if b = 0 then .utf16 .little else .utf8, bytes)
  | _ => (.utf8, bytes)

/-- The code points of bytes in an encoding. -/
def Encoding.decode? : Encoding → Bytes → Option RawText
  | utf8, bytes => Utf8.decodePassing? bytes
  | utf16 order, bytes => Utf16.decodePassing? order bytes
  | utf32 order, bytes => Utf32.decodePassing? order bytes

/-- The value that bytes are the form of. -/
def ofBytes? (maxDepth : Nat) (bytes : Bytes) : Option Json :=
  let (encoding, rest) := detect bytes
  (encoding.decode? rest).bind (ofText? maxDepth)

end Json

end SnippetReview
