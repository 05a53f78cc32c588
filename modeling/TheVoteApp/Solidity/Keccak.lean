import TheVoteApp.Solidity.Abi

/-!
# Digests of the strings the repository hashes

The development never needs to know how `keccak256` computes, only that it does
not collide on the byte strings at hand.  For concrete runs, `sampleKeccak256`
lists the digests of the strings those runs hash: the policy of the contract's
own tests under its three encodings, the event signatures, and the option names.
-/

namespace TheVoteApp.Solidity

/-- The policy identifier of the contract's tests. -/
def samplePolicyId : Bytes := toUtf8Bytes "healthcare-reform-2026"

/-- The country code `GB`. -/
def gb : Bytes2 := 0x4742

/-- The digests of the sample strings. -/
def sampleDigests : List (Bytes × Bytes32) :=
  [(samplePolicyId ++ bytes2Bytes gb,
      0x66b90453ffa38865eb4e462bf3476d26dcd0a376d67a00c493eb993eddd519b2),
    (samplePolicyId, 0x4fa7b89b7d07c5a6a29e133d0cbf3f6eb034f379b8eb268122f14fd83f57aad0),
    (Abi.encode [.dynamic samplePolicyId, .fixedBytes (bytes2Bytes gb)],
      0xaa3e623f02d2992aa74598d5c82e42ed53a62710e85ed6174174aa05409fdf78),
    (toUtf8Bytes "VoteCast(bytes32,bytes32,bytes32)",
      0xd49c61c2208680a08fcb905a8f4a40699b15d6ddec5cf662bd1581194d324fc5),
    (toUtf8Bytes "VoteCast(bytes32,bytes32,string,uint256)",
      0x41f97d4fe1ce263086f261a6c1ec52e1263a9574ff68639fa7e6abf07cff3936),
    (toUtf8Bytes "PolicyFinalized(bytes32)",
      0x79b463b7013dc34458500b0412086ab5c60a5dda3e336a8815728228521cd339),
    (toUtf8Bytes "PollFinalised(bytes32,uint256)",
      0x938f1af16f74a2619298ae32a069fc2eaa44f04bc1cde02977a072851e15a904),
    (toUtf8Bytes "PollCreated(bytes32,bytes2,uint64)",
      0xd79a4c3cd6154d1b0f7a01e10a5d9d94630435098ec01c64df4b2358ee97abb6),
    (toUtf8Bytes "Paused(address)",
      0x62e78cea01bee320cd4e420270b5ea74000d11b0c9f74754ebdbfc544b05a258),
    (toUtf8Bytes "Unpaused(address)",
      0x5db9ee0a495bf2e6ff9c91a7834c1ba4fdd244a5e8aa4e537bd38aeae4b073aa),
    (toUtf8Bytes "OwnershipTransferred(address,address)",
      0x8be0079c531659141344cd1fd0a4f28419497f9722a3daafe3b4186f6b6457e0),
    (toUtf8Bytes "option-support",
      0xbec7981359868c51592d260c2adaf2a1bdae9a3937758051d8c32d18b845169b),
    (toUtf8Bytes "option-oppose",
      0xc52024bd3a57327f5e377636b1472e948cf25465a9755d579f923a8710c0fbb1),
    (toUtf8Bytes "option-abstain",
      0xd02e7bab318dc3ae6ba58303027738b2663d515089f816bc9506f533fcc716dd)]

/-- `keccak256` on the sample strings. -/
def sampleKeccak256 (bs : Bytes) : Bytes32 :=
  ((sampleDigests.find? fun entry => decide (entry.1 = bs)).map Prod.snd).getD 0

end TheVoteApp.Solidity
