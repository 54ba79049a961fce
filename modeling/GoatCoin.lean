import GoatCoin.Core.GossipWindow
import GoatCoin.Goatd.Reassembly
import GoatCoin.Goatd.SessionTable
import GoatCoin.Contracts.DailyCap
import GoatCoin.Contracts.EscrowSolvency
import GoatCoin.Contracts.JobLane
import GoatCoin.Contracts.ProxyExits
import GoatCoin.Contracts.ProxyConsumers
import GoatCoin.Contracts.FeeTokenPolicy
import GoatCoin.Contracts.WalletRecovery
import GoatCoin.Contracts.SellCaps
import GoatCoin.Attestor.SignedPrices
import GoatCoin.Attestor.BatchClaims
import GoatCoin.Attestor.Challenger
import GoatCoin.Tunnel.StreamLifetime
import GoatCoin.Tunnel.Channel
import GoatCoin.Tunnel.Handshake
import GoatCoin.Attestor.SybilNeutrality
import GoatCoin.StreamG.SweepSoundness
import GoatCoin.StreamG.NonceGaps
import GoatCoin.Worker.QuietRefusals
import GoatCoin.StreamG.PreflightGaps
import GoatCoin.Ledger.Beacon
import GoatCoin.Ledger.Windows
import GoatCoin.Protocol.ExactFold
import GoatCoin.Protocol.MergeGroups
import GoatCoin.Worker.KillSwitch
import GoatCoin.Worker.LedgerRuns
import GoatCoin.Worker.StartGate
import GoatCoin.Worker.ConsumerBytes
import GoatCoin.StreamG.ReopenedIntents
import GoatCoin.Attestor.ProxyExactness
import GoatCoin.Core.FoldSoundness
import GoatCoin.Core.NetworkTime
import GoatCoin.Core.ThrashConfinement
import GoatCoin.Goatd.GenesisRegistry
import GoatCoin.Goatd.PacketAgreement
import GoatCoin.Ledger.Slashing
import GoatCoin.Attestor.Concentration
import GoatCoin.Attestor.EpochDates
import GoatCoin.Core.Fips202
import GoatCoin.Core.StakeLane
import GoatCoin.Net.RoundReference
import GoatCoin.Protocol.AttestationChain
import GoatCoin.Worker.AllowlistDigest
import GoatCoin.Worker.Meter
import GoatCoin.Worker.PathScope
import GoatCoin.Worker.RobotsMatching
import GoatCoin.Worker.Throttle
import GoatCoin.StreamG.Calldata
