import ShaderBuild.Include.Generator

/-!
The generators that come with the program: fixed headers, and virtual texturing headers
whose bindings and sizes are written in the identifier itself.
-/

namespace ShaderBuild.Builtin

/-- The directory of the fixed headers. -/
def home : String := "kiln/builtin/glsl"

/-- The directory of the virtual texturing headers. -/
def texturingHome : String := "kiln/builtin/glsl/virtual_texturing"

def commonHeader : String :=
  "#ifndef _KILN_BUILTIN_UTILS_COMMON_INCLUDED_
#define _KILN_BUILTIN_UTILS_COMMON_INCLUDED_

float kiln_saturate(float x) \x7b return clamp(x, 0.0, 1.0); \x7d
vec3 kiln_saturate(vec3 x) \x7b return clamp(x, vec3(0.0), vec3(1.0)); \x7d
float kiln_luma(vec3 rgb) \x7b return dot(rgb, vec3(0.2126, 0.7152, 0.0722)); \x7d

#endif
"

def constantsHeader : String :=
  "#ifndef _KILN_BUILTIN_UTILS_CONSTANTS_INCLUDED_
#define _KILN_BUILTIN_UTILS_CONSTANTS_INCLUDED_

#define KILN_PI 3.14159265358979323846
#define KILN_TWO_PI 6.28318530717958647693
#define KILN_FLT_EPSILON 1.19209290e-07

#endif
"

def headers : List (String × String) :=
  [("utils/common.glsl", commonHeader), ("utils/constants.glsl", constantsHeader)]

/-! ## Fixed headers -/

def dropSlashes (s : String) : String :=
  String.ofList (s.toList.reverse.dropWhile (· = '/')).reverse

/-- Serves texts by their path below `home`, whose trailing slashes do not count. -/
def embedded (home : String) (headers : List (String × String)) : Generator :=
  let home := dropSlashes home
  .ofMappings home <| headers.map fun (relative, text) =>
    ⟨.exactly (home ++ "/" ++ relative), fun _ => pure text⟩

/-! ## Virtual texturing headers -/

/-- A decimal number below 2^32. -/
def number? (digits : List Char) : Option Nat :=
  if digits = [] ∨ !digits.all Char.isDigit then none
  else
    let n := digits.foldl (fun n c => 10 * n + (c.toNat - '0'.toNat)) 0
    if n < 0x100000000 then some n else none

/-- The numbers after `file` in a virtual texturing identifier. -/
def numbers? (file name : String) : Option (List Nat) :=
  let stem := (texturingHome ++ "/").toList
  if stem.isPrefixOf name.toList then
    match pathArguments (String.ofList (name.toList.drop stem.length)) with
    | head :: tail => if head = file then tail.mapM fun a => number? a.toList else none
    | [] => none
  else none

/-- The exponent of a power of two. -/
def log2? (n : Nat) : Option Nat := if n ≠ 0 ∧ 1 <<< n.log2 = n then some n.log2 else none

def descriptors (set pageTable physicalTiles : Nat) : String :=
  "#ifndef _KILN_VIRTUAL_TEXTURING_DESCRIPTORS_INCLUDED_
#define _KILN_VIRTUAL_TEXTURING_DESCRIPTORS_INCLUDED_
layout(set = " ++ toString set ++ ", binding = " ++ toString pageTable ++
    ") uniform usampler2DArray kiln_vt_page_table;
layout(set = " ++ toString set ++ ", binding = " ++ toString physicalTiles ++
    ") uniform sampler2DArray kiln_vt_physical_tiles;
#endif
"

def extensions (pageTableSize tileSize tileSizeLog2 : Nat) : String :=
  "#ifndef _KILN_VIRTUAL_TEXTURING_EXTENSIONS_INCLUDED_
#define _KILN_VIRTUAL_TEXTURING_EXTENSIONS_INCLUDED_
#define KILN_VT_PAGE_TABLE_SIZE " ++ toString pageTableSize ++ "
#define KILN_VT_TILE_SIZE " ++ toString tileSize ++ "
#define KILN_VT_TILE_SIZE_LOG2 " ++ toString tileSizeLog2 ++ "
#endif
"

/-- The two bindings must differ. -/
def descriptorsText (name : String) : String :=
  match numbers? "descriptors.glsl" name with
  | some [set, pageTable, physicalTiles] =>
    if pageTable = physicalTiles then "" else descriptors set pageTable physicalTiles
  | _ => ""

/-- The page table must not be empty and the tile size must be a power of two. -/
def extensionsText (name : String) : String :=
  match numbers? "extensions.glsl" name with
  | some [pageTableSize, tileSize] =>
    match log2? tileSize with
    | some k => if pageTableSize = 0 then "" else extensions pageTableSize tileSize k
    | none => ""
  | _ => ""

def digits : Regex := .times (.set (.ofRange 0x30 0x39) false) 1 none true

/-- `file` below the virtual texturing directory, followed by `count` numbers. -/
def numbersPattern (file : String) (count : Nat) : Regex :=
  .seq (.literal (texturingHome ++ "/" ++ file).toList ::
    (List.replicate count [.literal ['/'], digits]).flatten)

def texturing : Generator :=
  .ofMappings texturingHome
    [⟨.whole (numbersPattern "descriptors.glsl" 3), fun name => pure (descriptorsText name)⟩,
     ⟨.whole (numbersPattern "extensions.glsl" 2), fun name => pure (extensionsText name)⟩]

/-- All of them, in the order of their registration. -/
def generators : List Generator := [embedded home headers, texturing]

end ShaderBuild.Builtin
