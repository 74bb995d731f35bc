import IPv6Suite.ICMPv6NDMessage
import IPv6Suite.Lib.Bits

namespace IPv6Suite

open Lib

/-- What `setLLAddress` checks -/
def ICMPv6NDMessage.Addresses (msg : ICMPv6NDMessage) (addr : String) (len : BitVec 32) : Prop :=
  addr ≠ "" ∧ (msg.opt0 = none → len.toInt ≤ 255)

namespace ICMPv6NDMRtrAd

inductive Call where
  | setCurHopLimit (hopLimit : BitVec 32)
  | setManaged (managed : Bool)
  | setOther (other : Bool)
  | setRouterLifetime (routerLife : BitVec 32)
  | setReachableTime (reachTime : BitVec 32)
  | setRetransTimer (retrans : BitVec 32)
  | setPrefixInfo (pref : OptPrefix) (i : Nat)
  | setPrefixesInfo (pe : List PrefixEntry)
  | setMTU (mtu memory : BitVec 32)
  | setAdvInterval (advInt : BitVec 32)
  | addOption (mapOpt : HMIPv6ICMPv6NDOptMAP)
  | setOptions (opts : List HMIPv6ICMPv6NDOptMAP)
  | setSrcLLAddr (addr : String) (len : BitVec 32)
  | removeOptions

def call (msg : ICMPv6NDMessage) : Call → Exec ICMPv6NDMessage
  | .setCurHopLimit hopLimit => .ok (setCurHopLimit msg hopLimit)
  | .setManaged managed => .ok (setManaged msg managed)
  | .setOther other => .ok (setOther msg other)
  | .setRouterLifetime routerLife => .ok (setRouterLifetime msg routerLife)
  | .setReachableTime reachTime => .ok (setReachableTime msg reachTime)
  | .setRetransTimer retrans => .ok (setRetransTimer msg retrans)
  | .setPrefixInfo pref i => setPrefixInfo msg pref i
  | .setPrefixesInfo pe => .ok (setPrefixesInfo msg pe)
  | .setMTU mtu memory => setMTU msg mtu memory
  | .setAdvInterval advInt => setAdvInterval msg advInt
  | .addOption mapOpt => .ok (addOption msg mapOpt)
  | .setOptions opts => .ok (setOptions msg opts)
  | .setSrcLLAddr addr len => msg.setLLAddress true addr len
  | .removeOptions => msg.removeOptions

/-- What the getters return -/
structure Values where
  curHopLimit : BitVec 32
  managed : Bool
  other : Bool
  routerLifetime : BitVec 32
  isHomeAgent : Bool
  reachableTime : BitVec 32
  retransTimer : BitVec 32
  prefixesInfo : List OptPrefix
  mtu : BitVec 32
  advInterval : BitVec 32
  mapOptions : List HMIPv6ICMPv6NDOptMAP
  srcLLAddr : String
deriving DecidableEq

def view (msg : ICMPv6NDMessage) : Values where
  curHopLimit := curHopLimit msg
  managed := managed msg
  other := other msg
  routerLifetime := routerLifetime msg
  isHomeAgent := isHomeAgent msg
  reachableTime := reachableTime msg
  retransTimer := retransTimer msg
  prefixesInfo := msg.prefixes
  mtu := mtu msg
  advInterval := advInterval msg
  mapOptions := msg.mapOpts
  srcLLAddr := msg.llAddress

def created (args : Args) : Values where
  curHopLimit := args.hopLimit
  managed := args.managed
  other := args.other
  routerLifetime := args.lifetime
  isHomeAgent := false
  reachableTime := args.reach
  retransTimer := args.retrans
  prefixesInfo := (args.prefixList.getD []).map .ofEntry
  mtu := 0
  advInterval := 0
  mapOptions := []
  srcLLAddr := ""

def called (values : Values) : Call → Values
  | .setCurHopLimit hopLimit => { values with curHopLimit := hopLimit }
  | .setManaged managed => { values with managed }
  | .setOther other => { values with other }
  | .setRouterLifetime routerLife => { values with routerLifetime := routerLife }
  | .setReachableTime reachTime => { values with reachableTime := reachTime }
  | .setRetransTimer retrans => { values with retransTimer := retrans }
  | .setPrefixInfo pref i => { values with prefixesInfo := values.prefixesInfo.set i pref }
  | .setPrefixesInfo pe => { values with prefixesInfo := pe.map .ofEntry }
  | .setMTU mtu _ => { values with mtu }
  | .setAdvInterval advInt => { values with advInterval := advInt }
  | .addOption mapOpt => { values with mapOptions := values.mapOptions ++ [mapOpt] }
  | .setOptions opts => { values with mapOptions := opts }
  | .setSrcLLAddr addr _ => { values with srcLLAddr := addr }
  | .removeOptions => { values with mtu := 0, advInterval := 0, srcLLAddr := "" }

end ICMPv6NDMRtrAd

/-- Router advertisements -/
def rtrAd : ObjectClass where
  Object := ICMPv6NDMessage
  Ctor := ICMPv6NDMRtrAd.Args
  Call := ICMPv6NDMRtrAd.Call
  Values := ICMPv6NDMRtrAd.Values
  create := ICMPv6NDMRtrAd.create
  call := ICMPv6NDMRtrAd.call
  copy := ICMPv6NDMessage.copy
  assign := ICMPv6NDMessage.assign
  created := ICMPv6NDMRtrAd.created
  called := ICMPv6NDMRtrAd.called

/-- The values of the hop limit and of the router lifetime fit into their fields and have all bits that
are set already, and a new MTU option finds its value in memory. What the setters check is met. -/
def rtrAdStores : rtrAd.Condition where
  created (args : ICMPv6NDMRtrAd.Args) := args.hopLimit.toNat < 2 ^ 8 ∧ args.lifetime.toNat < 2 ^ 16
  called (msg : ICMPv6NDMessage) : ICMPv6NDMRtrAd.Call → Prop
    | .setCurHopLimit hopLimit =>
        hopLimit.toNat < 2 ^ 8 ∧ ICMPv6NDMRtrAd.curHopLimit msg ||| hopLimit = hopLimit
    | .setRouterLifetime routerLife =>
        routerLife.toNat < 2 ^ 16 ∧ ICMPv6NDMRtrAd.routerLifetime msg ||| routerLife = routerLife
    | .setMTU mtu memory => memory = mtu
    | .setPrefixInfo _ i => i < msg.prefixes.length
    | .setSrcLLAddr addr len => msg.Addresses addr len
    | _ => True

namespace ICMPv6NDMessage

variable {msg msg' src : ICMPv6NDMessage} {k : Nat} {b : Bool}

theorem flag_eq {mask : BitVec 32} (single : mask = BitVec.twoPow 32 k) (inside : k < 32) :
    msg.flag mask = msg.optInfo.getLsbD k := by
  rw [single]
  exact Flags.and_twoPow_ne_zero inside

theorem optInfo_setFlag {mask : BitVec 32} (single : mask = BitVec.twoPow 32 k) :
    (msg.setFlag mask b).optInfo = Flags.put msg.optInfo k b := by
  rw [single]
  rfl

theorem setLength_ok {length : Int} (sets : msg.setLength length = .ok msg') : msg' = { msg with length } := by
  unfold setLength at sets
  split at sets
  · cases sets
    rfl
  · cases sets

theorem shorten_ok {units : Option Nat} (shortens : msg.shorten units = .ok msg') :
    msg' = { msg with length := msg.length - 8 * units.getD 0 } := by
  cases units with
  | none =>
      cases shortens
      rw [Option.getD_none, Int.natCast_zero, Int.mul_zero, Int.sub_zero]
  | some units =>
      rw [setLength_ok shortens, Option.getD_some]
      congr 1
      change msg.length - units * 1 * 8 = _
      omega

def optUnits (msg : ICMPv6NDMessage) : Nat :=
  ((msg.opt0.map (·.lengthInUnits.toNat)).getD 0) + ((msg.opt1.map fun _ => 1).getD 0) +
    ((msg.opt2.map fun _ => 1).getD 0)

/-- What is left of a message without its options -/
def bare (msg : ICMPv6NDMessage) : ICMPv6NDMessage :=
  { msg with length := msg.length - 8 * msg.optUnits, opt0 := none, opt1 := none, opt2 := none }

theorem removeOptions_ok (removes : msg.removeOptions = .ok msg') : msg' = msg.bare := by
  obtain ⟨first, shortens, removes⟩ := bind_eq_ok.mp removes
  obtain ⟨second, shortens', removes⟩ := bind_eq_ok.mp removes
  obtain ⟨third, shortens'', removes⟩ := bind_eq_ok.mp removes
  cases shorten_ok shortens
  cases shorten_ok shortens'
  cases shorten_ok shortens''
  cases removes
  unfold bare optUnits
  congr 1
  push_cast
  omega

theorem assign_ok (assigns : msg.assign src = .ok msg') : msg' = src := by
  obtain ⟨_, _, ends⟩ := bind_eq_ok.mp assigns
  cases ends
  rfl

section LLAddress

variable {source : Bool} {addr : String} {len : BitVec 32}

theorem setLLAddress_ok (sets : msg.setLLAddress source addr len = .ok msg') :
    ∃ opt length, opt.addr = addr ∧ msg' = { msg with length, opt0 := some opt } := by
  obtain ⟨_, _, sets⟩ := bind_eq_ok.mp sets
  cases entry : msg.opt0 with
  | none =>
      rw [entry] at sets
      obtain ⟨opt, creates, adds⟩ := bind_eq_ok.mp sets
      obtain ⟨_, _, ends⟩ := bind_eq_ok.mp creates
      cases ends
      exact ⟨_, _, rfl, setLength_ok adds⟩
  | some opt =>
      rw [entry] at sets
      cases sets
      exact ⟨{ opt with addr }, msg.length, rfl, rfl⟩

end LLAddress

end ICMPv6NDMessage

theorem managedMask_eq : managedMask = BitVec.twoPow 32 23 := by decide
theorem otherMask_eq : otherMask = BitVec.twoPow 32 22 := by decide
theorem homeAgentMask_eq : homeAgentMask = BitVec.twoPow 32 20 := by decide
theorem isRouterMask_eq : isRouterMask = BitVec.twoPow 32 31 := by decide
theorem solicitedMask_eq : solicitedMask = BitVec.twoPow 32 30 := by decide
theorem overrideMask_eq : overrideMask = BitVec.twoPow 32 29 := by decide

namespace ICMPv6NDMRtrAd

variable {msg msg' : ICMPv6NDMessage}

def wordView (values : Values) (word : BitVec 32) : Values :=
  { values with
    curHopLimit := word >>> 24
    managed := word.getLsbD 23
    other := word.getLsbD 22
    routerLifetime := word &&& 0xFFFF
    isHomeAgent := word.getLsbD 20 }

theorem view_word {word : BitVec 32} : view { msg with optInfo := word } = wordView (view msg) word := by
  have flags {mask : BitVec 32} {k : Nat} (single : mask = BitVec.twoPow 32 k) (inside : k < 32) :
      ICMPv6NDMessage.flag { msg with optInfo := word } mask = word.getLsbD k :=
    ICMPv6NDMessage.flag_eq single inside
  unfold view managed other isHomeAgent wordView
  rw [flags managedMask_eq (by decide), flags otherMask_eq (by decide), flags homeAgentMask_eq (by decide)]
  rfl

theorem view_eq : view msg = wordView (view msg) msg.optInfo := @view_word msg msg.optInfo

theorem bit_of_low {i : Nat} (set : (0xFFFF : BitVec 32).getLsbD i) : i < 16 := by
  have bit : (2 ^ 16 - 1).testBit i = true := set
  rw [Nat.testBit_two_pow_sub_one] at bit
  exact of_decide_eq_true bit

theorem and_low {routerLife : BitVec 32} (fits : routerLife.toNat < 2 ^ 16) : routerLife &&& 0xFFFF = routerLife := by
  apply BitVec.eq_of_toNat_eq
  rw [BitVec.toNat_and]
  change routerLife.toNat &&& (2 ^ 16 - 1) = _
  rw [Nat.and_two_pow_sub_one_eq_mod, Nat.mod_eq_of_lt fits]

theorem view_setManaged {b : Bool} : view (setManaged msg b) = { view msg with managed := b } := by
  have word : setManaged msg b = { msg with optInfo := Flags.put msg.optInfo 23 b } := by
    unfold setManaged ICMPv6NDMessage.setFlag
    rw [managedMask_eq]
    rfl
  have low : Flags.put msg.optInfo 23 b &&& 0xFFFF = msg.optInfo &&& 0xFFFF :=
    Flags.put_and fun i set same => absurd (bit_of_low set) (by omega)
  rw [word, view_word]
  unfold wordView
  rw [Flags.put_ushiftRight (by decide), Flags.getLsbD_put_same (by decide), Flags.getLsbD_put_ne (by decide), low,
    Flags.getLsbD_put_ne (by decide)]
  exact congrArg (fun values : Values => { values with managed := b }) view_eq.symm

theorem view_setOther {b : Bool} : view (setOther msg b) = { view msg with other := b } := by
  have word : setOther msg b = { msg with optInfo := Flags.put msg.optInfo 22 b } := by
    unfold setOther ICMPv6NDMessage.setFlag
    rw [otherMask_eq]
    rfl
  have low : Flags.put msg.optInfo 22 b &&& 0xFFFF = msg.optInfo &&& 0xFFFF :=
    Flags.put_and fun i set same => absurd (bit_of_low set) (by omega)
  rw [word, view_word]
  unfold wordView
  rw [Flags.put_ushiftRight (by decide), Flags.getLsbD_put_ne (by decide), Flags.getLsbD_put_same (by decide), low,
    Flags.getLsbD_put_ne (by decide)]
  exact congrArg (fun values : Values => { values with other := b }) view_eq.symm

theorem view_setCurHopLimit {hopLimit : BitVec 32} (fits : hopLimit.toNat < 2 ^ 8) :
    view (setCurHopLimit msg hopLimit) = { view msg with curHopLimit := curHopLimit msg ||| hopLimit } := by
  have low : (msg.optInfo ||| hopLimit <<< 24) &&& 0xFFFF = msg.optInfo &&& 0xFFFF := by
    apply BitVec.eq_of_getLsbD_eq
    intro i _
    rw [BitVec.getLsbD_and, BitVec.getLsbD_and]
    cases field : (0xFFFF : BitVec 32).getLsbD i with
    | false => rw [Bool.and_false, Bool.and_false]
    | true => rw [Flags.getLsbD_or_shiftLeft (lt_trans (bit_of_low field) (by decide))]
  unfold setCurHopLimit
  rw [view_word]
  unfold wordView
  rw [Flags.or_shiftLeft_ushiftRight fits, Flags.getLsbD_or_shiftLeft (by decide),
    Flags.getLsbD_or_shiftLeft (by decide), low, Flags.getLsbD_or_shiftLeft (by decide)]
  exact congrArg (fun values : Values => { values with curHopLimit := curHopLimit msg ||| hopLimit }) view_eq.symm

theorem view_setRouterLifetime {routerLife : BitVec 32} (fits : routerLife.toNat < 2 ^ 16) :
    view (setRouterLifetime msg routerLife) =
      { view msg with routerLifetime := routerLifetime msg ||| routerLife } := by
  have low : (msg.optInfo ||| routerLife) &&& 0xFFFF = (msg.optInfo &&& 0xFFFF) ||| routerLife := by
    rw [BitVec.and_or_distrib_right, and_low fits]
  unfold setRouterLifetime
  rw [view_word]
  unfold wordView
  rw [Flags.or_small_ushiftRight (fits.trans (by decide)), Flags.getLsbD_or_small fits (by decide),
    Flags.getLsbD_or_small fits (by decide), low, Flags.getLsbD_or_small fits (by decide)]
  exact congrArg (fun values : Values => { values with routerLifetime := routerLifetime msg ||| routerLife })
    view_eq.symm

theorem setMTU_ok {mtu memory : BitVec 32} (sets : setMTU msg mtu memory = .ok msg') :
    ∃ length, msg' = { msg with length, opt1 := some ⟨memory⟩ } := by
  unfold setMTU at sets
  dsimp only at sets
  split at sets
  · exact ⟨_, ICMPv6NDMessage.setLength_ok sets⟩
  · cases sets
    exact ⟨_, rfl⟩

theorem setAdvInterval_ok {advInt : BitVec 32} (sets : setAdvInterval msg advInt = .ok msg') :
    ∃ length, msg' = { msg with length, opt2 := some ⟨advInt.setWidth 64⟩ } := by
  unfold setAdvInterval at sets
  dsimp only at sets
  split at sets
  · exact ⟨_, ICMPv6NDMessage.setLength_ok sets⟩
  · cases sets
    exact ⟨_, rfl⟩

/-- What a new router advertisement shows -/
theorem create_view {args : Args} (hopLimit : args.hopLimit.toNat < 2 ^ 8) (lifetime : args.lifetime.toNat < 2 ^ 16)
    (creates : create args = .ok msg) : view msg = created args := by
  let first := setCurHopLimit ICMPv6NDMessage.create args.hopLimit
  let third := setOther (setManaged first args.managed) args.other
  have limited : view first = { view ICMPv6NDMessage.create with curHopLimit := args.hopLimit } := by
    have zero : curHopLimit ICMPv6NDMessage.create ||| args.hopLimit = args.hopLimit := BitVec.zero_or
    rw [view_setCurHopLimit hopLimit, zero]
  have flagged : view third = { view first with managed := args.managed, other := args.other } := by
    rw [view_setOther, view_setManaged]
  have unset : routerLifetime third = 0 := by
    calc routerLifetime third
        = (view third).routerLifetime := rfl
      _ = (view ICMPv6NDMessage.create).routerLifetime := by rw [flagged, limited]
      _ = 0 := rfl
  have lived : view (setRouterLifetime third args.lifetime) =
      { view third with routerLifetime := args.lifetime } := by
    have zero : routerLifetime third ||| args.lifetime = args.lifetime := by
      rw [unset]
      exact BitVec.zero_or
    rw [view_setRouterLifetime lifetime, zero]
  let timed := setRetransTimer (setReachableTime (setRouterLifetime third args.lifetime) args.reach) args.retrans
  have word : view timed = { created args with prefixesInfo := [] } := by
    calc view timed
        = { view (setRouterLifetime third args.lifetime) with
            reachableTime := args.reach, retransTimer := args.retrans } := rfl
      _ = { created args with prefixesInfo := [] } := by
        rw [lived, flagged, limited]
        rfl
  unfold create at creates
  dsimp only at creates
  unfold created at word ⊢
  cases given : args.prefixList with
  | none =>
      rw [given] at creates word
      cases creates
      exact word
  | some prefixList =>
      rw [given] at creates word
      rw [ICMPv6NDMessage.setLength_ok creates]
      exact congrArg (fun values : Values => { values with prefixesInfo := prefixList.map .ofEntry }) word

theorem call_view {c : Call} (meets : rtrAdStores.called msg c) (calls : call msg c = .ok msg') :
    view msg' = called (view msg) c := by
  cases c with
  | setCurHopLimit hopLimit =>
      cases calls
      rw [view_setCurHopLimit meets.1, meets.2]
      rfl
  | setManaged managed =>
      cases calls
      exact view_setManaged
  | setOther other =>
      cases calls
      exact view_setOther
  | setRouterLifetime routerLife =>
      cases calls
      rw [view_setRouterLifetime meets.1, meets.2]
      rfl
  | setReachableTime reachTime =>
      cases calls
      rfl
  | setRetransTimer retrans =>
      cases calls
      rfl
  | setPrefixInfo pref i =>
      have sets : msg' = { msg with prefixes := msg.prefixes.set i pref } := by
        change setPrefixInfo msg pref i = _ at calls
        unfold setPrefixInfo at calls
        have inside : i < msg.prefixes.length := meets
        rw [if_pos inside] at calls
        cases calls
        rfl
      rw [sets]
      rfl
  | setPrefixesInfo pe =>
      cases calls
      rfl
  | setMTU mtu memory =>
      obtain ⟨length, sets⟩ := setMTU_ok calls
      have found : memory = mtu := meets
      rw [sets, found]
      rfl
  | setAdvInterval advInt =>
      obtain ⟨length, sets⟩ := setAdvInterval_ok calls
      have same : (advInt.setWidth 64).setWidth 32 = advInt := by
        rw [BitVec.setWidth_setWidth_of_le _ (by decide), BitVec.setWidth_eq]
      rw [sets]
      exact congrArg (fun interval => { view msg with advInterval := interval }) same
  | addOption mapOpt =>
      cases calls
      rfl
  | setOptions opts =>
      cases calls
      rfl
  | setSrcLLAddr addr len =>
      obtain ⟨opt, length, same, sets⟩ := ICMPv6NDMessage.setLLAddress_ok calls
      rw [sets]
      exact congrArg (fun addr => { view msg with srcLLAddr := addr }) same
  | removeOptions =>
      rw [ICMPv6NDMessage.removeOptions_ok calls]
      rfl

end ICMPv6NDMRtrAd

theorem rtrAd_keeps : rtrAd.Keeps rtrAdStores fun msg values => ICMPv6NDMRtrAd.view msg = values where
  create meets creates := ICMPv6NDMRtrAd.create_view meets.1 meets.2 creates
  call shows meets calls := (ICMPv6NDMRtrAd.call_view meets calls).trans (congrArg (rtrAd.called · _) shows)
  copy shows copies := by
    rw [ICMPv6NDMessage.assign_ok copies]
    exact shows
  assign _ shows assigns := by
    rw [ICMPv6NDMessage.assign_ok assigns]
    exact shows

end IPv6Suite
