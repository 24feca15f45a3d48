import ParticleMomentum.Main
import ParticleMomentum.Proofs.Evaluation.NegativeDiffusion
import ParticleMomentum.Proofs.Evaluation.Decomposition
import ParticleMomentum.Proofs.Evaluation.ZeroDivisors
import ParticleMomentum.Proofs.Evaluation.Relabelling
import ParticleMomentum.Proofs.Evaluation.FrameIndifference
import ParticleMomentum.Proofs.Evaluation.AngularMomentum
import ParticleMomentum.Proofs.Evaluation.UniformPressure
import ParticleMomentum.Proofs.Evaluation.Separation
import ParticleMomentum.Proofs.Evaluation.Setups
import ParticleMomentum.Proofs.Evaluation.AdmissibleStates
import ParticleMomentum.Proofs.Managers.History
import ParticleMomentum.Proofs.Pair.AllOrNothing
import ParticleMomentum.Proofs.Exact.TruncatedPowers
import ParticleMomentum.Proofs.Kernels.Shape
import ParticleMomentum.Proofs.Pair.Increments
import ParticleMomentum.Proofs.Kernels.Normalization
import ParticleMomentum.Proofs.Evaluation.UnmodifiedVelocity
import ParticleMomentum.Proofs.Documents
import ParticleMomentum.Proofs.Particles.Clearing
import ParticleMomentum.Proofs.Particles.Layout
import ParticleMomentum.Proofs.Exact.Lattices
import ParticleMomentum.Proofs.Managers.Kernels
import ParticleMomentum.Proofs.Catalogues
import ParticleMomentum.Proofs.Catalogues.Directory
