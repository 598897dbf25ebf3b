import EvmRisk.Signature

/-!
# The tables of signatures

What is looked for in code, in four tables: what proxies have in common, what owners can do, what
is dangerous to call, and what is dangerous to execute. The markers of the tables are all different
(`nodup_markers`). The tables have a version, since what is in them decides every report.
-/

namespace EvmRisk.Signature

/-- The version of the tables of signatures and indicators. -/
def tableVersion : String := "2024.1"

/-- A function with its selector. -/
def ofFunction (a b c d : UInt8) (tier : Tier) (name description : String) : Signature :=
  ⟨.selector a b c d, name, tier, description⟩

/-- An instruction; all of the known ones are grave. -/
def ofInstruction (b : UInt8) (name description : String) : Signature :=
  ⟨.opcode b, name, .high, description⟩

/-! ### Proxies -/

/-- Replaces the implementation. -/
def upgradeTo : Marker := .selector 0x36 0x59 0xcf 0xe6

/-- Replaces the implementation and calls it. -/
def upgradeToAndCall : Marker := .selector 0x4f 0x1e 0xf2 0x86

/-- The markers that can put another implementation in place. -/
def upgradeMarkers : List Marker := [upgradeTo, upgradeToAndCall]

/-- The functions of proxies and their administration. -/
def proxySelectors : List Signature :=
  [⟨upgradeTo, "upgradeTo(address)", .high, "Implementation can be replaced"⟩,
   ⟨upgradeToAndCall, "upgradeToAndCall(address,bytes)", .high,
     "Implementation can be replaced and initialised in one call"⟩,
   ofFunction 0x5c 0x60 0xda 0x1b .medium "implementation()"
     "Exposes the current implementation address",
   ofFunction 0xf8 0x51 0xa4 0x40 .medium "admin()"
     "Exposes the proxy admin address",
   ofFunction 0x8f 0x28 0x39 0x70 .medium "changeAdmin(address)"
     "Proxy admin can be handed over",
   ofFunction 0x52 0xd1 0x90 0x2d .medium "proxiableUUID()"
     "UUPS-compatible implementation"]

/-- The first sixteen bytes of the storage slot in which proxies of the standard kind keep the
address of their implementation. -/
def implementationSlot : List Char := "360894a13ba1a3210667c828492db98d".toList

/-! ### Owners -/

/-- The controls that a privileged owner has. Keeping a blacklist is the grave part of them. -/
def ownerSelectors : List Signature :=
  [ofFunction 0xf2 0xfd 0xe3 0x8b .medium "transferOwnership(address)"
     "Ownership can be transferred",
   ofFunction 0x71 0x50 0x18 0xa6 .medium "renounceOwnership()"
     "Ownable contract (ownership can be renounced)",
   ofFunction 0x8d 0xa5 0xcb 0x5b .medium "owner()"
     "Contract has an owner role",
   ofFunction 0x84 0x56 0xcb 0x59 .medium "pause()"
     "Owner can pause transfers",
   ofFunction 0x3f 0x4b 0xa8 0x3a .medium "unpause()"
     "Owner can resume transfers",
   ofFunction 0x44 0x33 0x7e 0xa1 .high "addToBlacklist(address)"
     "Owner can blacklist addresses",
   ofFunction 0xf9 0xf9 0x2b 0xe4 .high "blacklist(address)"
     "Owner can blacklist addresses",
   ofFunction 0x1a 0x89 0x52 0x66 .high "unBlacklist(address)"
     "Owner manages a blacklist",
   ofFunction 0x69 0xfe 0x0e 0x2d .medium "setFee(uint256)"
     "Owner can change fees",
   ofFunction 0xec 0x28 0x43 0x8a .medium "setMaxTxAmount(uint256)"
     "Owner can cap transaction size",
   ofFunction 0xc4 0x08 0x1a 0x4c .medium "setTaxFee(uint256)"
     "Owner can change transfer tax",
   ofFunction 0xea 0x16 0x44 0xd5 .medium "setMaxWalletSize(uint256)"
     "Owner can cap wallet balances"]

/-! ### Danger -/

/-- The functions that create, destroy or move value. -/
def dangerousSelectors : List Signature :=
  [ofFunction 0x40 0xc1 0x0f 0x19 .high "mint(address,uint256)"
     "Privileged minting to arbitrary addresses",
   ofFunction 0xa0 0x71 0x2d 0x68 .high "mint(uint256)"
     "Supply can be inflated",
   ofFunction 0xdb 0x2e 0x21 0xbc .high "emergencyWithdraw()"
     "Funds can be pulled out in one call",
   ofFunction 0x41 0xc0 0xe1 0xb5 .high "kill()"
     "Contract can be destroyed",
   ofFunction 0x83 0x19 0x7e 0xf0 .high "destroy()"
     "Contract can be destroyed",
   ofFunction 0x42 0x96 0x6c 0x68 .medium "burn(uint256)"
     "Tokens can be burned",
   ofFunction 0x79 0xcc 0x67 0x90 .medium "burnFrom(address,uint256)"
     "Tokens can be burned from other holders with allowance",
   ofFunction 0x3c 0xcf 0xd6 0x0b .medium "withdraw()"
     "Contract balance can be withdrawn",
   ofFunction 0x2e 0x1a 0x7d 0x4d .medium "withdraw(uint256)"
     "Contract balance can be withdrawn",
   ofFunction 0xc9 0x56 0x7b 0xf9 .medium "openTrading()"
     "Trading is gated behind an owner switch",
   ofFunction 0xc4 0x9b 0x9a 0x80 .medium "setSwapAndLiquifyEnabled(bool)"
     "Owner controls automatic swap-and-liquify"]

/-- The instructions that run other code or end the contract. As single bytes they also turn up in
data, so they are the least certain of all signs. -/
def dangerousOpcodes : List Signature :=
  [ofInstruction 0xff "SELFDESTRUCT"
     "Contract can self-destruct and forward its balance",
   ofInstruction 0xf4 "DELEGATECALL"
     "Executes foreign code in this contract's storage context",
   ofInstruction 0xf2 "CALLCODE"
     "Deprecated foreign-code call in this contract's context"]

/-- All tables, one after the other. -/
def all : List Signature := proxySelectors ++ ownerSelectors ++ dangerousSelectors ++ dangerousOpcodes

/-- **No marker stands for two signatures.** -/
theorem nodup_markers : (all.map marker).Nodup := by decide

end EvmRisk.Signature
