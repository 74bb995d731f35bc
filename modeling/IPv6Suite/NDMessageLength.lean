import IPv6Suite.NDMessages

namespace IPv6Suite

open Lib

namespace ICMPv6NDMessage

variable {msg msg' src : ICMPv6NDMessage}

/-- The length is that of the header and of the options that are there. -/
def Sized (msg : ICMPv6NDMessage) : Prop := msg.length = icmpv6HeaderBits + 64 * msg.units

theorem setLength_total {length : Int} (nonneg : 0 ≤ length) : ∃ next, msg.setLength length = .ok next :=
  ⟨_, if_pos nonneg⟩

theorem shorten_eq {units : Option Nat} (room : 8 * units.getD 0 ≤ msg.length) :
    msg.shorten units = .ok { msg with length := msg.length - 8 * units.getD 0 } := by
  cases units with
  | none =>
      rw [Option.getD_none, Int.natCast_zero, Int.mul_zero, Int.sub_zero]
      rfl
  | some units =>
      rw [Option.getD_some] at room ⊢
      have bits : msg.length - units * 1 * 8 = msg.length - 8 * units := by omega
      change msg.setLength (msg.length - units * 1 * 8) = _
      rw [bits]
      exact if_pos (by omega)

theorem units_eq : msg.units = msg.optUnits + msg.bare.units := by
  unfold units optUnits bare
  cases msg.opt1 <;> cases msg.opt2 <;> simp <;> omega

theorem removeOptions_eq (room : 8 * msg.optUnits ≤ msg.length) : msg.removeOptions = .ok msg.bare := by
  have enough := room
  unfold optUnits at enough
  push_cast at enough
  unfold removeOptions
  rw [shorten_eq (by omega), ok_bind]
  dsimp only
  rw [shorten_eq (by dsimp only; omega), ok_bind]
  dsimp only
  rw [shorten_eq (by dsimp only; omega), ok_bind]
  unfold bare optUnits
  congr 2
  push_cast
  omega

theorem Sized.nonneg (sized : msg.Sized) : 0 ≤ msg.length := by
  unfold Sized icmpv6HeaderBits at sized
  omega

/-- The options that are removed are subtracted in bytes. -/
theorem Sized.bare (sized : msg.Sized) (unsized : msg.optUnits = 0) : msg.bare.Sized := by
  have units := msg.units_eq
  unfold Sized at sized ⊢
  change msg.length - 8 * msg.optUnits = _
  omega

theorem Sized.room (sized : msg.Sized) : 8 * msg.optUnits ≤ msg.length := by
  have units := msg.units_eq
  unfold Sized icmpv6HeaderBits at sized
  omega

theorem Sized.assign (sized : src.Sized) (assigns : msg.assign src = .ok msg') : msg'.Sized := by
  rw [assign_ok assigns]
  exact sized

theorem Sized.assigns (sized : msg.Sized) : ∃ next, msg.assign src = .ok next := by
  unfold ICMPv6NDMessage.assign
  rw [removeOptions_eq sized.room]
  exact ⟨src, rfl⟩

theorem sized_create : ICMPv6NDMessage.create.Sized := rfl

theorem copies : ∃ next, src.copy = .ok next := sized_create.assigns

section LLAddress

variable {source : Bool} {addr : String} {len : BitVec 32}

/-- The bits that are added for a new link-layer address are as many as its units. -/
theorem setLLAddress_new (new : msg.opt0 = none) (sets : msg.setLLAddress source addr len = .ok msg') :
    msg' = { msg with
      length := msg.length + (len.setWidth 8).toNat, opt0 := some ⟨source, addr, len.setWidth 8⟩ } := by
  obtain ⟨_, _, sets⟩ := bind_eq_ok.mp sets
  rw [new] at sets
  obtain ⟨opt, creates, adds⟩ := bind_eq_ok.mp sets
  obtain ⟨_, _, ends⟩ := bind_eq_ok.mp creates
  cases ends
  rw [setLength_ok adds]
  congr 1
  change msg.length + (len.setWidth 8).toNat * 1 = _
  omega

theorem Sized.setLLAddress (sized : msg.Sized) (unsized : msg.opt0 = none → len.setWidth 8 = (0 : BitVec 8))
    (sets : msg.setLLAddress source addr len = .ok msg') : msg'.Sized := by
  cases entry : msg.opt0 with
  | none =>
      rw [setLLAddress_new entry sets, unsized entry]
      unfold Sized units at sized ⊢
      rw [entry] at sized
      change msg.length + 0 = _
      rw [Int.add_zero]
      exact sized
  | some opt =>
      obtain ⟨_, _, sets⟩ := bind_eq_ok.mp sets
      rw [entry] at sets
      cases sets
      unfold Sized units at sized ⊢
      rw [entry] at sized
      exact sized

theorem Sized.setsLLAddress (sized : msg.Sized) (addresses : msg.Addresses addr len) :
    ∃ next, msg.setLLAddress source addr len = .ok next := by
  obtain ⟨given, short⟩ := addresses
  have nonneg := sized.nonneg
  unfold ICMPv6NDMessage.setLLAddress
  rw [assert_pos given, ok_bind]
  cases entry : msg.opt0 with
  | none =>
      have creates : ICMPv6NDOptLLAddr.create source addr len = .ok ⟨source, addr, len.setWidth 8⟩ := by
        unfold ICMPv6NDOptLLAddr.create
        rw [assert_pos (short entry)]
        rfl
      dsimp only
      rw [creates, ok_bind]
      exact setLength_total (Int.add_nonneg nonneg (Int.mul_nonneg (Int.natCast_nonneg _) (Int.natCast_nonneg _)))
  | some opt => exact ⟨_, rfl⟩

end LLAddress

end ICMPv6NDMessage

open ICMPv6NDMessage

def rtrSolSizes : rtrSol.Condition where
  created _ := True
  called (msg : ICMPv6NDMessage) : ICMPv6NDMRtrSol.Call → Prop
    | .setSrcLLAddr _ len => msg.opt0 = none → len.setWidth 8 = (0 : BitVec 8)
    | .removeOptions => msg.optUnits = 0

def ngbrSolSizes : ngbrSol.Condition where
  created (args : ICMPv6NDMNgbrSol.Args) := args.srcLLAddr = ""
  called (msg : ICMPv6NDMessage) : ICMPv6NDMNgbrSol.Call → Prop
    | .setSrcLLAddr _ len => msg.opt0 = none → len.setWidth 8 = (0 : BitVec 8)
    | .removeOptions => msg.optUnits = 0
    | _ => True

/-- There is none that has its length right. -/
def ngbrAdSizes : ngbrAd.Condition where
  created _ := False
  called _ _ := False

/-- The prefixes and the options that are set are as many as those before. -/
def rtrAdSizes : rtrAd.Condition where
  created (args : ICMPv6NDMRtrAd.Args) := args.prefixList.getD [] = []
  called (msg : ICMPv6NDMessage) : ICMPv6NDMRtrAd.Call → Prop
    | .setSrcLLAddr _ len => msg.opt0 = none → len.setWidth 8 = (0 : BitVec 8)
    | .setPrefixesInfo pe => pe.length = msg.prefixes.length
    | .setMTU _ _ => msg.opt1 ≠ none
    | .setAdvInterval _ => msg.opt2 ≠ none
    | .removeOptions => msg.optUnits = 0
    | .addOption _ => False
    | .setOptions opts => opts.length = msg.mapOpts.length
    | _ => True

theorem rtrSol_right : rtrSol.Right rtrSolStores rtrSolSizes (fun msg values => llAddress msg = values) Sized := by
  refine rtrSol_keeps.right ⟨?_, ?_, fun sized => sized.assign, fun _ sized => sized.assign⟩
    ⟨fun _ => ⟨_, rfl⟩, ?_, fun _ => copies, fun sized _ => sized.assigns⟩
  · intro _ msg _ creates
    cases creates
    exact sized_create
  · intro msg _ call next sized sizes calls
    cases call with
    | setSrcLLAddr addr len => exact Sized.setLLAddress sized sizes calls
    | removeOptions =>
        rw [removeOptions_ok calls]
        exact Sized.bare sized sizes
  · intro msg call sized stores
    cases call with
    | setSrcLLAddr addr len => exact Sized.setsLLAddress sized stores
    | removeOptions => exact ⟨_, removeOptions_eq (Sized.room sized)⟩

theorem ngbrSol_right :
    ngbrSol.Right ngbrSolStores ngbrSolSizes (fun msg values => ICMPv6NDMNgbrSol.view msg = values) Sized := by
  refine ngbrSol_keeps.right ⟨?_, ?_, fun sized => sized.assign, fun _ sized => sized.assign⟩
    ⟨?_, ?_, fun _ => copies, fun sized _ => sized.assigns⟩
  · intro args msg empty creates
    have addressless : args.srcLLAddr = "" := empty
    change ICMPv6NDMNgbrSol.create args.targetAddr args.srcLLAddr = _ at creates
    unfold ICMPv6NDMNgbrSol.create at creates
    rw [if_neg (not_not.mpr addressless)] at creates
    cases creates
    exact sized_create
  · intro msg _ call next sized sizes calls
    cases call with
    | setTargetAddr target =>
        cases calls
        exact sized
    | setSrcLLAddr addr len => exact Sized.setLLAddress sized sizes calls
    | removeOptions =>
        rw [removeOptions_ok calls]
        exact Sized.bare sized sizes
  · intro args _
    change ∃ msg, ICMPv6NDMNgbrSol.create args.targetAddr args.srcLLAddr = .ok msg
    unfold ICMPv6NDMNgbrSol.create
    dsimp only
    split
    · rename_i given
      have sized : (ICMPv6NDMNgbrSol.setTargetAddr .create args.targetAddr).Sized := rfl
      exact sized.setsLLAddress ⟨given, fun _ => by decide⟩
    · exact ⟨_, rfl⟩
  · intro msg call sized stores
    cases call with
    | setTargetAddr target => exact ⟨_, rfl⟩
    | setSrcLLAddr addr len => exact Sized.setsLLAddress sized stores
    | removeOptions => exact ⟨_, removeOptions_eq (Sized.room sized)⟩

/-- A new neighbour advertisement has a link-layer address, and so never the length of its options. -/
theorem ngbrAd_unsized {args : ICMPv6NDMNgbrAd.Args} {msg : ICMPv6NDMessage}
    (creates : ngbrAd.create args = .ok msg) : ¬ msg.Sized := by
  let flagged := ICMPv6NDMNgbrAd.setFlags (ICMPv6NDMNgbrAd.setTargetAddr .create args.targetAddr) args.isRouter
    args.solicited args.override
  have sets : flagged.setLLAddress false args.addr 1 = .ok msg := creates
  rw [setLLAddress_new rfl sets]
  intro sized
  have lengths : (65 : Int) = 128 := sized
  omega

theorem ngbrAd_right :
    ngbrAd.Right ngbrAdStores ngbrAdSizes (fun msg values => ICMPv6NDMNgbrAd.view msg = values) Sized := by
  refine ngbrAd_keeps.right ⟨fun never => never.elim, fun _ never => never.elim, fun sized => sized.assign,
    fun _ sized => sized.assign⟩ ⟨?_, ?_, fun _ => copies, fun sized _ => sized.assigns⟩
  · intro args given
    have sized : (ICMPv6NDMNgbrAd.setFlags (ICMPv6NDMNgbrAd.setTargetAddr .create args.targetAddr) args.isRouter
      args.solicited args.override).Sized := rfl
    exact sized.setsLLAddress ⟨given, fun _ => by decide⟩
  · intro msg call sized stores
    cases call with
    | setTargetLLAddr addr len => exact Sized.setsLLAddress sized stores
    | removeOptions => exact ⟨_, removeOptions_eq (Sized.room sized)⟩
    | _ => exact ⟨_, rfl⟩

theorem optMTU_right : optMTU.Right optMTUStores ⟨fun _ => True, fun _ _ => True⟩
    (fun opt values => ICMPv6NDOptMTU.mtu opt = values) (fun _ => True) :=
  optMTU_keeps.right ⟨fun _ _ => trivial, fun _ _ _ => trivial, fun _ _ => trivial, fun _ _ _ => trivial⟩
    ⟨fun _ => ⟨_, rfl⟩, fun _ _ => ⟨_, rfl⟩, fun _ => ⟨_, rfl⟩, fun _ _ => ⟨_, rfl⟩⟩

namespace ICMPv6NDMRtrAd

variable {msg msg' : ICMPv6NDMessage}

/-- The prefixes of a new router advertisement are counted in bytes. -/
theorem create_sized {args : Args} (plain : args.prefixList.getD [] = []) (creates : create args = .ok msg) :
    msg.Sized := by
  unfold create at creates
  dsimp only at creates
  cases given : args.prefixList with
  | none =>
      rw [given] at creates
      cases creates
      rfl
  | some prefixList =>
      rw [given] at plain creates
      cases plain
      cases creates
      rfl

theorem create_total {args : Args} : ∃ msg, create args = .ok msg := by
  unfold create
  dsimp only
  cases args.prefixList with
  | none => exact ⟨_, rfl⟩
  | some prefixList =>
      refine setLength_total ?_
      change 0 ≤ icmpv6HeaderBits + _
      unfold icmpv6HeaderBits
      omega

theorem setMTU_sized {mtu memory : BitVec 32} (sized : msg.Sized) (before : msg.opt1 ≠ none)
    (sets : setMTU msg mtu memory = .ok msg') : msg'.Sized := by
  unfold setMTU at sets
  unfold Sized units at sized
  cases entry : msg.opt1 with
  | none => exact absurd entry before
  | some opt =>
      rw [entry] at sets sized
      cases sets
      exact sized

theorem setMTU_total {mtu memory : BitVec 32} (sized : msg.Sized) : ∃ msg', setMTU msg mtu memory = .ok msg' := by
  have nonneg := sized.nonneg
  unfold setMTU
  dsimp only
  split
  · refine setLength_total ?_
    omega
  · exact ⟨_, rfl⟩

theorem setAdvInterval_sized {advInt : BitVec 32} (sized : msg.Sized) (before : msg.opt2 ≠ none)
    (sets : setAdvInterval msg advInt = .ok msg') : msg'.Sized := by
  unfold setAdvInterval at sets
  unfold Sized units at sized
  cases entry : msg.opt2 with
  | none => exact absurd entry before
  | some opt =>
      rw [entry] at sets sized
      cases sets
      exact sized

theorem setAdvInterval_total {advInt : BitVec 32} (sized : msg.Sized) :
    ∃ msg', setAdvInterval msg advInt = .ok msg' := by
  have nonneg := sized.nonneg
  unfold setAdvInterval
  dsimp only
  split
  · refine setLength_total ?_
    omega
  · exact ⟨_, rfl⟩

theorem Sized.lists {prefixes : List OptPrefix} {mapOpts : List HMIPv6ICMPv6NDOptMAP} (sized : msg.Sized)
    (same : prefixes.length = msg.prefixes.length) (same_maps : mapOpts.length = msg.mapOpts.length) :
    ICMPv6NDMessage.Sized { msg with prefixes, mapOpts } := by
  unfold ICMPv6NDMessage.Sized units at sized ⊢
  dsimp only
  rw [same, same_maps]
  exact sized

theorem call_sized {c : Call} (sized : msg.Sized) (sizes : rtrAdSizes.called msg c) (calls : call msg c = .ok msg') :
    msg'.Sized := by
  cases c with
  | setPrefixInfo pref i =>
      change setPrefixInfo msg pref i = _ at calls
      unfold setPrefixInfo at calls
      split at calls
      · cases calls
        exact Sized.lists sized List.length_set rfl
      · cases calls
  | setPrefixesInfo pe =>
      cases calls
      exact Sized.lists sized ((List.length_map _).trans sizes) rfl
  | setMTU mtu memory => exact setMTU_sized sized sizes calls
  | setAdvInterval advInt => exact setAdvInterval_sized sized sizes calls
  | addOption mapOpt => exact sizes.elim
  | setOptions opts =>
      cases calls
      exact Sized.lists sized rfl sizes
  | setSrcLLAddr addr len => exact sized.setLLAddress sizes calls
  | removeOptions =>
      rw [removeOptions_ok calls]
      exact Sized.bare sized sizes
  | _ =>
      cases calls
      exact sized

theorem call_total {c : Call} (sized : msg.Sized) (stores : rtrAdStores.called msg c) :
    ∃ msg', call msg c = .ok msg' := by
  cases c with
  | setPrefixInfo pref i => exact ⟨_, if_pos stores⟩
  | setMTU mtu memory => exact setMTU_total sized
  | setAdvInterval advInt => exact setAdvInterval_total sized
  | setSrcLLAddr addr len => exact sized.setsLLAddress stores
  | removeOptions => exact ⟨_, removeOptions_eq sized.room⟩
  | _ => exact ⟨_, rfl⟩

end ICMPv6NDMRtrAd

theorem rtrAd_right :
    rtrAd.Right rtrAdStores rtrAdSizes (fun msg values => ICMPv6NDMRtrAd.view msg = values) Sized :=
  rtrAd_keeps.right ⟨ICMPv6NDMRtrAd.create_sized, fun sized => ICMPv6NDMRtrAd.call_sized sized,
      fun sized => sized.assign, fun _ sized => sized.assign⟩
    ⟨fun _ => ICMPv6NDMRtrAd.create_total, ICMPv6NDMRtrAd.call_total, fun _ => copies, fun sized _ => sized.assigns⟩

/-- The condition on which the getters of neighbour discovery messages and of MTU options return what was
set, the one on which the length of a message is that of its options, and that they fail on no message
that meets both. No neighbour advertisement has the length of its options. -/
theorem nd_messages (args : ngbrAd.Ctor) (msg : ngbrAd.Object) :
    rtrSol.Right rtrSolStores rtrSolSizes (fun msg values => llAddress msg = values) Sized ∧
    rtrAd.Right rtrAdStores rtrAdSizes (fun msg values => ICMPv6NDMRtrAd.view msg = values) Sized ∧
    ngbrSol.Right ngbrSolStores ngbrSolSizes (fun msg values => ICMPv6NDMNgbrSol.view msg = values) Sized ∧
    ngbrAd.Right ngbrAdStores ngbrAdSizes (fun msg values => ICMPv6NDMNgbrAd.view msg = values) Sized ∧
    (ngbrAd.create args = .ok msg → ¬ ICMPv6NDMessage.Sized msg) ∧
    optMTU.Right optMTUStores ⟨fun _ => True, fun _ _ => True⟩
      (fun opt values => ICMPv6NDOptMTU.mtu opt = values) (fun _ => True) :=
  ⟨rtrSol_right, rtrAd_right, ngbrSol_right, ngbrAd_right, ngbrAd_unsized, optMTU_right⟩

/-- A hop limit of 1 that is set to 2, an MTU of 1500 and a link-layer address -/
theorem nd_messages_fails : ∃ objs : rtrAd.Store, run rtrAd.step []
    [.create (⟨30, 1, 0, 0, none, false, false⟩ : ICMPv6NDMRtrAd.Args),
      .call 0 (ICMPv6NDMRtrAd.Call.setCurHopLimit 2), .call 0 (ICMPv6NDMRtrAd.Call.setMTU 1500 7),
      .call 0 (ICMPv6NDMRtrAd.Call.setSrcLLAddr "0:0:0:0:0:1" 1)] = .ok objs ∧
    ∃ p ∈ objs, ICMPv6NDMRtrAd.curHopLimit p.1 = 3 ∧ ICMPv6NDMRtrAd.mtu p.1 = 7 ∧
      ICMPv6NDMRtrAd.Values.curHopLimit p.2 = 2 ∧ ICMPv6NDMRtrAd.Values.mtu p.2 = 1500 ∧
      ICMPv6NDMessage.length p.1 = 73 ∧ ¬ ICMPv6NDMessage.Sized p.1 := by
  refine ⟨_, rfl, _, List.mem_singleton_self _, ?_, rfl, rfl, rfl, rfl, ?_⟩
  · decide
  · intro sized
    have lengths : (73 : Int) = 192 := sized
    omega

end IPv6Suite
