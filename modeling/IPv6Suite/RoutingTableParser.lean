import IPv6Suite.IPAddressText
import IPv6Suite.MACRelayUnitBase
import IPv6Suite.RoutingTable

namespace IPv6Suite

open Lib

/-- What ends the reading of a routing file early: `opp_error` with its text and arguments, an error
of the routing table, an access outside an array or through a pointer that was never set. -/
inductive ParserFault where
  | oppError (text : String) (args : List (List Char))
  | routingTable (fault : Fault)
  | outOfBounds
  | uninitialised
  | outOfFuel
deriving DecidableEq

abbrev ParserExec (α : Type) := Except ParserFault α

/-- The two arrays that lines of the file are copied to -/
inductive FilteredFile where
  | ifconfigFile
  | routeFile
deriving DecidableEq

/-- The entries of an interface, in the order in which `parseInterfaces` looks for them -/
inductive IfconfigToken where
  | name
  | encap
  | hwAddr
  | inetAddr
  | bcast
  | mask
  | groups
  | mtu
  | metric
  | broadcast
  | multicast
  | pointToPoint
deriving DecidableEq

structure InterfaceSettings where
  inetAddr : IPAddressBytes
  netmask : IPAddressBytes
  metric : Int
  multicastGroups : List IPAddressBytes
  mtu : Int
  broadcast : Bool
  multicast : Bool
  pointToPoint : Bool

/-- The parser with the tables that it fills. Interfaces are pointed to by their names, which are
unique. `nextTokens` is what a `cStringTokenizer` finds between colons. -/
structure RoutingTableParser where
  rt : RoutingTable
  settings : String → InterfaceSettings
  ipForward : Bool
  nextTokens : List Char → List (List Char)

namespace RoutingTableParser

def MAX_FILESIZE : Nat := 10000

def MAX_ENTRY_STRING_SIZE : Nat := 500

/-- As a `char`; the byte 0xff of a file is taken for it. -/
def EOF : Char := Char.ofNat 255

def NUL : Char := Char.ofNat 0

def isalnum (c : Char) : Bool := c.isAlphanum

def isspace (c : Char) : Bool := TextStream.isSpace c

def cString (array : List Char) : List Char := array.takeWhile (· ≠ NUL)

def startToken : FilteredFile → List Char
  | .ifconfigFile => "ifconfig:".toList
  | .routeFile => "route:".toList

def endToken : FilteredFile → List Char
  | .ifconfigFile => "ifconfigend.".toList
  | .routeFile => "routeend.".toList

def tokenStr : IfconfigToken → List Char
  | .name => "name:".toList
  | .encap => "encap:".toList
  | .hwAddr => "HWaddr:".toList
  | .inetAddr => "inet_addr:".toList
  | .bcast => "Bcast:".toList
  | .mask => "Mask:".toList
  | .groups => "Groups:".toList
  | .mtu => "MTU:".toList
  | .metric => "Metric:".toList
  | .broadcast => "BROADCAST".toList
  | .multicast => "MULTICAST".toList
  | .pointToPoint => "POINTTOPOINT".toList

/-! A pointer into an array is what is left of the array from there on. -/

/-- `strncmp` stops at the first difference. -/
def streq : List Char → List Char → ParserExec Bool
  | _, [] => .ok true
  | [], _ :: _ => .error .outOfBounds
  | c :: str, t :: token => if c = t then streq str token else .ok false

/-- The word that is copied to `dest`, where `room` is left, and the rest of `src` -/
def strcpyword : Nat → List Char → ParserExec (List Char × List Char)
  | 0, _ => .error .outOfBounds
  | _ + 1, [] => .error .outOfBounds
  | room + 1, c :: src =>
      if isspace c then .ok ([], c :: src)
      else do
        let (word, src) ← strcpyword room src
        return (c :: word, src)

def skipBlanks : List Char → ParserExec (List Char)
  | [] => .error .outOfBounds
  | c :: str => if isspace c then skipBlanks str else .ok (c :: str)

/-- The bytes of the file up to `EOF`, in an array with `room` left that is filled up with zeros -/
def readFile : Nat → List Char → ParserExec (List Char)
  | 0, _ => .error .outOfBounds
  | room + 1, [] => .ok (EOF :: List.replicate room NUL)
  | room + 1, c :: fp =>
      if c = EOF then .ok (EOF :: List.replicate room NUL)
      else do
        let file ← readFile room fp
        return c :: file

/-- `while (!isalnum(file[charpointer]))` and the loop to the next line in it, which may be entered
already -/
def skipLines : Bool → List Char → ParserExec (List Char)
  | _, [] => .error .outOfBounds
  | inLine, c :: file =>
      if ¬ inLine ∧ isalnum c then .ok (c :: file) else skipLines (c ≠ '\n') file

/-- The line with its newline, copied to an array with `room` left, and the rest of the file -/
def copyLine : Nat → List Char → ParserExec (List Char × List Char)
  | 0, _ => .error .outOfBounds
  | _ + 1, [] => .error .outOfBounds
  | room + 1, c :: file =>
      if c = '\n' then .ok ([c], file)
      else do
        let (line, file) ← copyLine room file
        return (c :: line, file)

/-- An array that begins with a string; `memory` is what `new` leaves behind it. -/
def newArray (memory : Nat → Char) (text : List Char) : List Char :=
  text ++ NUL :: (List.range (MAX_FILESIZE - text.length - 1)).map fun i => memory (text.length + 1 + i)

/-- `while(true)`; each round copies a line. -/
def copyLines (memory : Nat → Char) (endtoken : List Char) :
    Nat → List Char → List Char → ParserExec (List Char × List Char)
  | 0, _, _ => .error .outOfFuel
  | fuel + 1, filterFile, file => do
      let file ← skipLines false file
      if ← streq file endtoken then
        if filterFile.length < MAX_FILESIZE then return (newArray memory filterFile, file)
        else .error .outOfBounds
      else do
        let (line, file) ← copyLine (MAX_FILESIZE - filterFile.length) file
        copyLines memory endtoken fuel (filterFile ++ line) file

def createFilteredFile (memory : Nat → Char) (file endtoken : List Char) :
    ParserExec (List Char × List Char) := copyLines memory endtoken file.length [] file

def filterPart (memory : FilteredFile → Nat → Char) (part : FilteredFile)
    (files : FilteredFile → Option (List Char)) (file : List Char) :
    ParserExec ((FilteredFile → Option (List Char)) × List Char) := do
  if ← streq file (startToken part) then
    let (array, file) ← createFilteredFile (memory part) file (endToken part)
    return (Function.update files part (some array), file)
  else return (files, file)

/-- The two tests where a line begins -/
def filterLine (memory : FilteredFile → Nat → Char) (files : FilteredFile → Option (List Char))
    (file : List Char) : ParserExec ((FilteredFile → Option (List Char)) × List Char) := do
  let (files, file) ← filterPart memory .ifconfigFile files file
  filterPart memory .routeFile files file

/-- The loop that copies the file into the filtered arrays. `lineStart` tells whether a line begins. -/
def filterFiles (memory : FilteredFile → Nat → Char) :
    Nat → Bool → (FilteredFile → Option (List Char)) → List Char →
      ParserExec (FilteredFile → Option (List Char))
  | 0, _, _, _ => .error .outOfFuel
  | _ + 1, _, files, [] => .ok files
  | fuel + 1, lineStart, files, c :: file =>
      if c = EOF then .ok files
      else do
        let (files, file) ←
          if lineStart then filterLine memory files (c :: file) else .ok (files, c :: file)
        match file with
        | [] => .error .outOfBounds
        | c :: file => filterFiles memory fuel (c = '\n') files file

/-- The first of the tokens that stands at the pointer -/
def findToken : List IfconfigToken → List Char → ParserExec (Option IfconfigToken)
  | [], _ => .ok none
  | token :: tokens, file => do
      if ← streq file (tokenStr token) then return some token else findToken tokens file

def interfaceTokens : List IfconfigToken :=
  [.name, .encap, .hwAddr, .inetAddr, .bcast, .mask, .groups, .mtu, .metric, .broadcast, .multicast,
    .pointToPoint]

/-- The string copied to `destStr`, and the pointer behind it -/
def parseEntry (file token : List Char) : ParserExec (List Char × List Char) := do
  let file ← skipBlanks (file.drop token.length)
  let (word, file) ← strcpyword MAX_ENTRY_STRING_SIZE file
  let file ← skipBlanks file
  return (cString word, file)

def address (text : List Char) : ParserExec IPAddressBytes :=
  match IPAddressBytes.parseIPAddress text with
  | some a => .ok a
  | none => .error (.oppError "Invalid IP address string `%s'" [text])

/-- The pointer to the interface is followed. -/
def follow : Option String → ParserExec String
  | some ie => .ok ie
  | none => .error .uninitialised

def set (p : RoutingTableParser) (ie : String) (change : InterfaceSettings → InterfaceSettings) :
    RoutingTableParser := { p with settings := Function.update p.settings ie (change (p.settings ie)) }

def parseMulticastGroups (p : RoutingTableParser) (groupStr : List Char) :
    ParserExec (List IPAddressBytes) := do
  let mcg ← (p.nextTokens groupStr).mapM address
  return .ofBytes 224 0 0 1 :: (if p.ipForward then .ofBytes 224 0 0 2 :: mcg else mcg)

/-- An entry with a value that sets something of the interface. The pointer is followed before the value is
converted, which C++ leaves open. -/
def setFromValue (p : RoutingTableParser) (ie : Option String) (token : IfconfigToken)
    (file : List Char)
    (change : List Char → ParserExec (InterfaceSettings → InterfaceSettings)) :
    ParserExec (RoutingTableParser × Option String × List Char) := do
  let (value, file) ← parseEntry file (tokenStr token)
  let name ← follow ie
  let change ← change value
  return (p.set name change, ie, file)

def setFlag (p : RoutingTableParser) (ie : Option String) (token : IfconfigToken) (file : List Char)
    (change : InterfaceSettings → InterfaceSettings) :
    ParserExec (RoutingTableParser × Option String × List Char) := do
  let name ← follow ie
  let file ← skipBlanks (file.drop (tokenStr token).length)
  return (p.set name change, ie, file)

def parseToken (p : RoutingTableParser) (ie : Option String) (file : List Char) :
    IfconfigToken → ParserExec (RoutingTableParser × Option String × List Char)
  | .name => do
      let (name, file) ← parseEntry file (tokenStr .name)
      match p.rt.interfaceByName (String.ofList name) with
      | some ie => return (p, some ie.name, file)
      | none => throw (.oppError
          "Error in routing file: interface name `%s' not registered by any L2 module" [name])
  | .encap => do
      let (_, file) ← parseEntry file (tokenStr .encap)
      return (p, ie, file)
  | .hwAddr => do
      let (_, file) ← parseEntry file (tokenStr .hwAddr)
      return (p, ie, file)
  | .inetAddr => p.setFromValue ie .inetAddr file fun value => do
      let inetAddr ← address value
      return fun settings => { settings with inetAddr }
  | .bcast => do
      let (_, file) ← parseEntry file (tokenStr .bcast)
      return (p, ie, file)
  | .mask => p.setFromValue ie .mask file fun value => do
      let netmask ← address value
      return fun settings => { settings with netmask }
  | .groups => p.setFromValue ie .groups file fun value => do
      let mcg ← p.parseMulticastGroups value
      return fun settings => { settings with multicastGroups := settings.multicastGroups ++ mcg }
  | .mtu => p.setFromValue ie .mtu file fun value =>
      .ok fun settings => { settings with mtu := atoi value }
  | .metric => p.setFromValue ie .metric file fun value =>
      .ok fun settings => { settings with metric := atoi value }
  | .broadcast => p.setFlag ie .broadcast file fun settings => { settings with broadcast := true }
  | .multicast => p.setFlag ie .multicast file fun settings => { settings with multicast := true }
  | .pointToPoint => p.setFlag ie .pointToPoint file fun settings =>
      { settings with pointToPoint := true }

/-- `while(ifconfigFile[charpointer] != '\0')` -/
def parseInterfacesFrom : Nat → RoutingTableParser → Option String → List Char →
    ParserExec RoutingTableParser
  | 0, _, _, _ => .error .outOfFuel
  | _ + 1, _, _, [] => .error .outOfBounds
  | fuel + 1, p, ie, c :: file =>
      if c = NUL then .ok p
      else do
        match ← findToken interfaceTokens (c :: file) with
        | none => parseInterfacesFrom fuel p ie file
        | some token => do
            let (p, ie, file) ← p.parseToken ie (c :: file) token
            parseInterfacesFrom fuel p ie file

def parseInterfaces (p : RoutingTableParser) (ifconfigFile : List Char) : ParserExec RoutingTableParser :=
  parseInterfacesFrom (ifconfigFile.length + 1) p none ifconfigFile

def parseColumn (file : List Char) : ParserExec (List Char × List Char) := do
  let (str, file) ← strcpyword MAX_ENTRY_STRING_SIZE file
  let file ← skipBlanks file
  return (cString str, file)

def parseHost (str : List Char) : ParserExec IPAddressBytes :=
  if str = "default:".toList then .ok (.ofBytes 0 0 0 0)
  else if ¬ IPAddressBytes.isWellFormed str then .error (.oppError
    "Syntax error in routing file: `%s' on 1st column should be `default:' or a valid IP address" [str])
  else address str

def parseGateway (str : List Char) : ParserExec IPAddressBytes :=
  if str = "*".toList ∨ str = "0.0.0.0".toList then .ok (.ofBytes 0 0 0 0)
  else if ¬ IPAddressBytes.isWellFormed str then .error (.oppError
    "Syntax error in routing file: `%s' on 2nd column should be `*' or a valid IP address" [str])
  else address str

def parseNetmask (str : List Char) : ParserExec IPAddressBytes :=
  if ¬ IPAddressBytes.isWellFormed str then .error (.oppError
    "Syntax error in routing file: `%s' on 3rd column should be a valid IP address" [str])
  else address str

/-- The type of the entry, which the flags set, is left out. -/
def parseFlags (str : List Char) : ParserExec Unit :=
  if str.all fun flag => flag = 'H' || flag = 'G' then .ok ()
  else .error (.oppError "Syntax error in routing file: 4th column should be `G' or `H' not `%s'" [str])

def parseReferences (str : List Char) : ParserExec Unit :=
  if atoi str = 0 ∧ str.head? ≠ some '0' then
    .error (.oppError "Syntax error in routing file: 5th column should be numeric not `%s'" [str])
  else .ok ()

def parseInterfaceName (p : RoutingTableParser) (str : List Char) : ParserExec IPv4InterfaceEntry :=
  match p.rt.interfaceByName (String.ofList str) with
  | some ie => .ok ie
  | none => .error (.oppError
      "Syntax error in routing file: 6th column should be an existing interface name not `%s'" [str])

/-- The six columns of an entry, each with the pointer behind it -/
def parseRow (p : RoutingTableParser) (file : List Char) :
    ParserExec (RoutingTableParser × List Char) := do
  let first ← parseColumn file
  let host ← parseHost first.1
  let second ← parseColumn first.2
  let gateway ← parseGateway second.1
  let third ← parseColumn second.2
  let netmask ← parseNetmask third.1
  let fourth ← parseColumn third.2
  parseFlags fourth.1
  let fifth ← parseColumn fourth.2
  parseReferences fifth.1
  let sixth ← parseColumn fifth.2
  let interface ← p.parseInterfaceName sixth.1
  let rt ← (p.rt.addRoutingEntry
    { host, netmask, gateway
      interfaceName := String.ofList sixth.1
      interfacePtr := some interface }).mapError .routingTable
  return ({ p with rt }, sixth.2)

/-- `while (routeFile[pos] != '\0')` -/
def parseRows : Nat → RoutingTableParser → List Char → ParserExec RoutingTableParser
  | 0, _, _ => .error .outOfFuel
  | _ + 1, _, [] => .error .outOfBounds
  | fuel + 1, p, c :: file =>
      if c = NUL then .ok p
      else do
        let (p, file) ← p.parseRow (c :: file)
        parseRows fuel p file

def parseRouting (p : RoutingTableParser) (routeFile : List Char) : ParserExec RoutingTableParser := do
  let file ← skipBlanks (routeFile.drop (startToken .routeFile).length)
  parseRows (file.length + 1) p file

/-- `file` is what `fopen` opens; `memory` is what is in the memory of the filtered files before. -/
def readRoutingTableFromFile (p : RoutingTableParser) (memory : FilteredFile → Nat → Char)
    (file : Option (List Char)) : ParserExec RoutingTableParser := do
  match file with
  | none => throw (.oppError "Error on opening routing table file." [])
  | some fp => do
      let file ← readFile MAX_FILESIZE fp
      let files ← filterFiles memory (file.length + 1) true (fun _ => none) file
      let p ← match files .ifconfigFile with
        | some ifconfigFile => p.parseInterfaces ifconfigFile
        | none => pure p
      match files .routeFile with
      | some routeFile => p.parseRouting routeFile
      | none => pure p

end RoutingTableParser

end IPv6Suite
