/-!
# Character names: notations

The part of the table of character names from U+1D000 to U+1EFFF: notations of music, mathematics
and sign writing.
-/

namespace ClassSchema.Text.CharacterName

/-- The names of notations of music, mathematics and sign writing. -/
def notations : List String :=
  ["@1D000aBYZANTINE MUSICAL SYMBOL PSILIdDASEIAdPERISPOMENIdOXEIA EKFONITIKONeDIPLI",
   "dVAREIA EKFONITIKONeDIPLIdKATHISTIdSYRMATIKIdPARAKLITIKIdYPOKRISISeDIPLIdKREMASTI",
   "dAPESO EKFONITIKONdEXO~dTELEIAdKENTIMATAdAPOSTROFOSeDIPLIdSYNEVMAdTHITAdOLIGON ARCHAION",
   "dGORGON~dPSILONdCHAMILONdVATHYdISON ARCHAIONdKENTIMA~dKENTIMATA~dSAXIMATAdPARICHON",
   "dSTAVROS APODEXIAdOXEIAI ARCHAIONdVAREIAI~dAPODERMA~dAPOTHEMAdKLASMAdREVMAdPIASMA ARCHAION",
   "dTINAGMAdANATRICHISMAdSEISMAdSYNAGMA ARCHAIONeMETA STAVROUdOYRANISMA ARCHAIONdTHEMAdLEMOIdDYO",
   "dTRIAdTESSERAdKRATIMATAdAPESO EXO NEOdFTHORA ARCHAIONdIMIFTHORAdTROMIKON ARCHAION",
   "dKATAVA TROMIKONdPELASTONdPSIFISTONdKONTEVMAdCHOREVMA ARCHAIONdRAPISMAdPARAKALESMA ARCHAION",
   "dPARAKLITIKI~dICHADINdNANAdPETASMAdKONTEVMA ALLOdTROMIKON~dSTRAGGISMATAdGRONTHISMATAdISON NEO",
   "dOLIGON~dOXEIA~dPETASTIdKOUFISMAdPETASTOKOUFISMAdKRATIMOKOUFISMAdPELASTON NEO",
   "dKENTIMATA NEO ANOdKENTIMA~~dYPSILIdAPOSTROFOS NEOdAPOSTROFOI SYNDESMOS~dYPORROI",
   "dKRATIMOYPORROONdELAFRONdCHAMILIdMIKRON ISONdVAREIA NEOdPIASMA~dPSIFISTON~dOMALONdANTIKENOMA",
   "dLYGISMAdPARAKLITIKI NEOdPARAKALESMA~dETERON PARAKALESMAdKYLISMAdANTIKENOKYLISMAdTROMIKON NEO",
   "dEKSTREPTONdSYNAGMA NEOdSYRMAdCHOREVMA NEOdEPEGERMAdSEISMA NEOdXIRON KLASMAdTROMIKOPSIFISTON",
   "dPSIFISTOLYGISMAdTROMIKOLYGISMAdTROMIKOPARAKALESMAdPSIFISTOPARAKALESMAdTROMIKOSYNAGMA",
   "dPSIFISTOSYNAGMAdGORGOSYNTHETONdARGOSYNTHETONdETERON~dOYRANISMA NEOdTHEMATISMOS ESOeEXO",
   "dTHEMA APLOUNdTHES KAI APOTHESdKATAVASMAdENDOFONONdYFEN KATOeANOdSTAVROSdKLASMA ANO",
   "dDIPLI ARCHAIONdKRATIMA~eALLOeNEOdAPODERMA~dAPLIdDIPLIdTRIPLIdTETRAPLIdKORONIS",
   "dLEIMMA ENOS CHRONOUeDYO CHRONONeTRION~eTESSARON~eIMISEOS CHRONOUdGORGON NEO ANO",
   "ePARESTIGMENON ARISTERAfDEXIAdDIGORGONePARESTIGMENON ARISTERA KATOgANOfDEXIAdTRIGORGONdARGON",
   "dIMIDIARGONdDIARGONdAGOGI POLI ARGIeARGOTERIeARGIeMETRIAeMESIeGORGIeGORGOTERIePOLI GORGI",
   "dMARTYRIA PROTOS ICHOSeALLI~~eDEYTEROS~eALLI~~eTRITOS~eTRIFONIASeTETARTOS ICHOSfLEGETOS~e~~",
   "ePLAGIOS~dISAKIA TELOUS ICHIMATOSdAPOSTROFOI~~dFANEROSIS TETRAFONIASeMONOFONIASeDIFONIAS",
   "dMARTYRIA VARYS ICHOSePROTOVARYS~ePLAGIOS TETARTOS~dGORTHMIKON N APLOUNfDIPLOUN",
   "dENARXIS KAI FTHORA VOUdIMIFONONdIMIFTHORONdFTHORA ARCHAION DEYTEROU ICHOUeDIATONIKI PAfNANA",
   "eNAOS ICHOSeDIATONIKI DIeSKLIRON DIATONON~eDIATONIKI KEfZOfNI KATOgANOeMALAKON CHROMA DIFONIAS",
   "gMONOFONIASdFHTORA SKLIRON CHROMA VASISdFTHORA SKLIRON CHROMA SYNAFIeNENANOdCHROA ZYGOSeKLITON",
   "eSPATHIdFTHORA I YFESIS TETARTIMORIONeENARMONIOS ANTIFONIAdYFESIS TRITIMORIONdDIESIS~",
   "eTETARTIMORIONeAPLI DYO DODEKATAeMONOGRAMMOS TESSERA~eDIGRAMMOS EX~eTRIGRAMMOS OKTO~",
   "dYFESIS APLI DYO~eMONOGRAMMOS TESSERA~eDIGRAMMOS EX~eTRIGRAMMOS OKTO~dGENIKI DIESISeYFESIS",
   "dDIASTOLI APLI MIKRIfMEGALIeDIPLIeTHESEOSdSIMANSIS~fDISIMOUfTRISIMOUfTETRASIMOUeARSEOSfDISIMOU",
   "fTRISIMOUfTETRASIMOUdDIGRAMMA GGdDIFTOGGOS OUdSTIGMAdARKTIKO PAeVOUeGAeDIeKEeZOeNI",
   "dKENTIMATA NEO MESOdKENTIMA~~dKENTIMATA NEO KATOdKENTIMA~~dKLASMA~dGORGON NEO~@1D100",
   "aMUSICAL SYMBOL SINGLE BARLINEcDOUBLE~cFINAL~cREVERSE~~cDASHED~cSHORT~cLEFT REPEAT SIGN",
   "cRIGHT~~cREPEAT DOTScDAL SEGNOcDA CAPOcSEGNOcCODAcREPEATED FIGURE-1+2cFERMATAdBELOW",
   "cBREATH MARKcCAESURAcBRACEcBRACKETcONE-LINE STAFFcTWO-LINE~cTHREE-LINE~cFOUR-LINE~cFIVE-LINE~",
   "cSIX-LINE~cSIX-STRING FRETBOARDcFOUR-STRING~cG CLEFeOTTAVA ALTAfBASSAcC CLEFcF~eOTTAVA ALTA",
   "fBASSAcDRUM CLEF-1+1@1D129cMULTIPLE MEASURE RESTcDOUBLE SHARPdFLATcFLAT UPdDOWNcNATURAL UP",
   "dDOWNcSHARP UPdDOWNcQUARTER TONE SHARPeFLATcCOMMON TIMEcCUT~cOTTAVA ALTAdBASSA",
   "cQUINDICESIMA ALTAdBASSAcMULTI RESTcWHOLE~cHALF~cQUARTER~cEIGHTH~cSIXTEENTH~cTHIRTY-SECOND~",
   "cSIXTY-FOURTH~cONE HUNDRED TWENTY-EIGHTH~cX NOTEHEADcPLUS~cCIRCLE X~cSQUARE NOTEHEAD WHITE",
   "eBLACKcTRIANGLE NOTEHEAD UP WHITEfBLACKeLEFT WHITEfBLACKeRIGHT WHITEfBLACKeDOWN WHITEfBLACK",
   "eUP RIGHT WHITEgBLACKcMOON NOTEHEAD WHITEeBLACKcTRIANGLE-ROUND NOTEHEAD DOWN WHITEfBLACK",
   "cPARENTHESIS NOTEHEADcVOID~cNOTEHEAD BLACKcNULL NOTEHEADcCLUSTER NOTEHEAD WHITEeBLACKcBREVE",
   "cWHOLE NOTEcHALF~cQUARTER~cEIGHTH~cSIXTEENTH~cTHIRTY-SECOND~cSIXTY-FOURTH~",
   "cONE HUNDRED TWENTY-EIGHTH~cCOMBINING STEMdSPRECHGESANG~dTREMOLO-1+2cFINGERED TREMOLO-1+2",
   "cCOMBINING AUGMENTATION DOTdFLAG-1+4cBEGIN BEAMcEND~cBEGIN TIEcEND~cBEGIN SLURcEND~",
   "cBEGIN PHRASEcEND~cCOMBINING ACCENTdSTACCATOdTENUTOdSTACCATISSIMOdMARCATOdMARCATO-STACCATO",
   "dACCENT-STACCATOdLOUREcARPEGGIATO UPdDOWNcCOMBINING DOITdRIPdFLIPdSMEARdBENDdDOUBLE TONGUE",
   "dTRIPLE~cRINFORZANDOcSUBITOcZcPIANOcMEZZOcFORTEcCRESCENDOcDECRESCENDOcGRACE NOTE SLASHeNO~cTR",
   "cTURNcINVERTED~cTURN SLASHdUPcORNAMENT STROKE-1+10cHAUPTSTIMMEcNEBENSTIMMEcEND OF STIMME",
   "cDEGREE SLASHcCOMBINING DOWN BOWdUP~dHARMONICdSNAP PIZZICATOcPEDAL MARKdUP~cHALF PEDAL~",
   "cGLISSANDO UPdDOWNcWITH FINGERNAILScDAMPdALLcMAXIMAcLONGAcBREVIScSEMIBREVIS WHITEdBLACKcMINIMA",
   "dBLACKcSEMIMINIMA WHITEdBLACKcFUSA WHITEdBLACKcLONGA PERFECTA RESTdIMPERFECTA~cBREVIS~",
   "cSEMIBREVIS~cMINIMA~cSEMIMINIMA~cTEMPUS PERFECTUM CUM PROLATIONE PERFECTAgIMPERFECTA",
   "gPERFECTA DIMINUTION-1dIMPERFECTUM CUM PROLATIONE PERFECTAgIMPERFECTAhDIMINUTION-1+2cCROIX",
   "cGREGORIAN C CLEFdF~cSQUARE BcVIRGAcPODATUScCLIVIScSCANDICUScCLIMACUScTORCULUScPORRECTUS",
   "dFLEXUScSCANDICUS~cTORCULUS RESUPINUScPES SUBPUNCTIScKIEVAN C CLEFdEND OF PIECEdFINAL NOTE",
   "dRECITATIVE MARKdWHOLE NOTEdHALF~dQUARTER NOTE STEM DOWNgUPdEIGHTH NOTE STEM DOWNgUPdFLAT SIGN",
   "cSORIcKORON@1D200aGREEK VOCAL NOTATION SYMBOL-1+23dSYMBOL-50+4bINSTRUMENTAL NOTATION SYMBOL-1",
   "+1dSYMBOL-4+1dSYMBOL-7+1dSYMBOL-11+3dSYMBOL-17+2dSYMBOL-23+4dSYMBOL-29+1dSYMBOL-32dSYMBOL-36+4",
   "dSYMBOL-42+1dSYMBOL-45dSYMBOL-47+7aCOMBINING GREEK MUSICAL TRISEMEdTETRASEMEdPENTASEME",
   "aGREEK MUSICAL LEIMMA@1D2C0aKAKTOVIK NUMERAL ZEROcONEcTWOcTHREEcFOURcFIVEcSIXcSEVENcEIGHTcNINE",
   "cTENcELEVENcTWELVEcTHIRTEENcFOURTEENcFIFTEENcSIXTEENcSEVENTEENcEIGHTEENcNINETEEN@1D2E0",
   "aMAYAN NUMERAL ZEROcONEcTWOcTHREEcFOURcFIVEcSIXcSEVENcEIGHTcNINEcTENcELEVENcTWELVEcTHIRTEEN",
   "cFOURTEENcFIFTEENcSIXTEENcSEVENTEENcEIGHTEENcNINETEEN@1D300aMONOGRAM FOR EARTH",
   "aDIGRAM FOR HEAVENLY~cHUMAN~cEARTHLY HEAVENdHUMANcEARTHaTETRAGRAM FOR CENTREcFULL CIRCLEcMIRED",
   "cBARRIERcKEEPING SMALLcCONTRARIETYcASCENTcOPPOSITIONcBRANCHING OUTcDEFECTIVENESS OR DISTORTION",
   "cDIVERGENCEcYOUTHFULNESScINCREASEcPENETRATIONcREACHcCONTACTcHOLDING BACKcWAITINGcFOLLOWING",
   "cADVANCEcRELEASEcRESISTANCEcEASEcJOYcCONTENTIONcENDEAVOURcDUTIEScCHANGEcDECISIVENESS",
   "cBOLD RESOLUTIONcPACKINGcLEGIONcCLOSENESScKINSHIPcGATHERINGcSTRENGTHcPURITYcFULLNESScRESIDENCE",
   "cLAW OR MODELcRESPONSEcGOING TO MEETcENCOUNTERScSTOVEcGREATNESScENLARGEMENTcPATTERNcRITUAL",
   "cFLIGHTcVASTNESS OR WASTINGcCONSTANCYcMEASUREcETERNITYcUNITYcDIMINISHMENTcCLOSED MOUTH",
   "cGUARDEDNESScGATHERING INcMASSINGcACCUMULATIONcEMBELLISHMENTcDOUBTcWATCHcSINKINGcINNER",
   "cDEPARTUREcDARKENINGcDIMMINGcEXHAUSTIONcSEVERANCEcSTOPPAGEcHARDNESScCOMPLETIONcCLOSUREcFAILURE",
   "cAGGRAVATIONcCOMPLIANCEcON THE VERGEcDIFFICULTIEScLABOURINGcFOSTERING@1D360",
   "aCOUNTING ROD UNIT DIGIT ONEeTWOeTHREEeFOUReFIVEeSIXeSEVENeEIGHTeNINEcTENS DIGIT ONEeTWOeTHREE",
   "eFOUReFIVEeSIXeSEVENeEIGHTeNINEaIDEOGRAPHIC TALLY MARK ONEdTWOdTHREEdFOURdFIVEaTALLY MARK ONE",
   "cFIVE@1D400aMATHEMATICAL BOLD CAPITAL AdBdCdDdEdFdGdHdIdJdKdLdMdNdOdPdQdRdSdTdUdVdWdXdYdZ",
   "cSMALL AdBdCdDdEdFdGdHdIdJdKdLdMdNdOdPdQdRdSdTdUdVdWdXdYdZbITALIC CAPITAL AdBdCdDdEdFdGdHdIdJ",
   "dKdLdMdNdOdPdQdRdSdTdUdVdWdXdYdZcSMALL AdBdCdDdEdFdG@1D456dIdJdKdLdMdNdOdPdQdRdSdTdUdVdWdXdYdZ",
   "bBOLD ITALIC CAPITAL AeBeCeDeEeFeGeHeIeJeKeLeMeNeOePeQeReSeTeUeVeWeXeYeZdSMALL AeBeCeDeEeFeGeH",
   "eIeJeKeLeMeNeOePeQeReSeTeUeVeWeXeYeZbSCRIPT CAPITAL A@1D49EdCdD@1D4A2dG@1D4A5dJdK@1D4A9dNdOdP",
   "dQ@1D4AEdSdTdUdVdWdXdYdZcSMALL AdBdCdD@1D4BBdF@1D4BDdHdIdJdKdLdMdN@1D4C5dPdQdRdSdTdUdVdWdXdYdZ",
   "bBOLD SCRIPT CAPITAL AeBeCeDeEeFeGeHeIeJeKeLeMeNeOePeQeReSeTeUeVeWeXeYeZdSMALL AeBeCeDeEeFeGeH",
   "eIeJeKeLeMeNeOePeQeReSeTeUeVeWeXeYeZbFRAKTUR CAPITAL AdB@1D507dDdEdFdG@1D50DdJdKdLdMdNdOdPdQ",
   "@1D516dSdTdUdVdWdXdY@1D51EcSMALL AdBdCdDdEdFdGdHdIdJdKdLdMdNdOdPdQdRdSdTdUdVdWdXdYdZ",
   "bDOUBLE-STRUCK CAPITAL AdB@1D53BdDdEdFdG@1D540dIdJdKdLdM@1D546dO@1D54AdSdTdUdVdWdXdY@1D552",
   "cSMALL AdBdCdDdEdFdGdHdIdJdKdLdMdNdOdPdQdRdSdTdUdVdWdXdYdZbBOLD FRAKTUR CAPITAL AeBeCeDeEeFeG",
   "eHeIeJeKeLeMeNeOePeQeReSeTeUeVeWeXeYeZdSMALL AeBeCeDeEeFeGeHeIeJeKeLeMeNeOePeQeReSeTeUeVeWeXeY",
   "eZbSANS-SERIF CAPITAL AdBdCdDdEdFdGdHdIdJdKdLdMdNdOdPdQdRdSdTdUdVdWdXdYdZcSMALL AdBdCdDdEdFdG",
   "dHdIdJdKdLdMdNdOdPdQdRdSdTdUdVdWdXdYdZcBOLD CAPITAL AeBeCeDeEeFeGeHeIeJeKeLeMeNeOePeQeReSeTeU",
   "eVeWeXeYeZdSMALL AeBeCeDeEeFeGeHeIeJeKeLeMeNeOePeQeReSeTeUeVeWeXeYeZcITALIC CAPITAL AeBeCeDeE",
   "eFeGeHeIeJeKeLeMeNeOePeQeReSeTeUeVeWeXeYeZdSMALL AeBeCeDeEeFeGeHeIeJeKeLeMeNeOePeQeReSeTeUeVeW",
   "eXeYeZcBOLD ITALIC CAPITAL AfBfCfDfEfFfGfHfIfJfKfLfMfNfOfPfQfRfSfTfUfVfWfXfYfZeSMALL AfBfCfDfE",
   "fFfGfHfIfJfKfLfMfNfOfPfQfRfSfTfUfVfWfXfYfZbMONOSPACE CAPITAL AdBdCdDdEdFdGdHdIdJdKdLdMdNdOdPdQ",
   "dRdSdTdUdVdWdXdYdZcSMALL AdBdCdDdEdFdGdHdIdJdKdLdMdNdOdPdQdRdSdTdUdVdWdXdYdZ",
   "bITALIC SMALL DOTLESS IeJ@1D6A8bBOLD CAPITAL ALPHAdBETAdGAMMAdDELTAdEPSILONdZETAdETAdTHETA",
   "dIOTAdKAPPAdLAMDAdMUdNUdXIdOMICRONdPIdRHOdTHETA SYMBOLdSIGMAdTAUdUPSILONdPHIdCHIdPSIdOMEGA",
   "cNABLAcSMALL ALPHAdBETAdGAMMAdDELTAdEPSILONdZETAdETAdTHETAdIOTAdKAPPAdLAMDAdMUdNUdXIdOMICRON",
   "dPIdRHOdFINAL SIGMAd~dTAUdUPSILONdPHIdCHIdPSIdOMEGAcPARTIAL DIFFERENTIALcEPSILON SYMBOLcTHETA~",
   "cKAPPA~cPHI~cRHO~cPI~bITALIC CAPITAL ALPHAdBETAdGAMMAdDELTAdEPSILONdZETAdETAdTHETAdIOTAdKAPPA",
   "dLAMDAdMUdNUdXIdOMICRONdPIdRHOdTHETA SYMBOLdSIGMAdTAUdUPSILONdPHIdCHIdPSIdOMEGAcNABLA",
   "cSMALL ALPHAdBETAdGAMMAdDELTAdEPSILONdZETAdETAdTHETAdIOTAdKAPPAdLAMDAdMUdNUdXIdOMICRONdPIdRHO",
   "dFINAL SIGMAd~dTAUdUPSILONdPHIdCHIdPSIdOMEGAcPARTIAL DIFFERENTIALcEPSILON SYMBOLcTHETA~cKAPPA~",
   "cPHI~cRHO~cPI~bBOLD ITALIC CAPITAL ALPHAeBETAeGAMMAeDELTAeEPSILONeZETAeETAeTHETAeIOTAeKAPPA",
   "eLAMDAeMUeNUeXIeOMICRONePIeRHOeTHETA SYMBOLeSIGMAeTAUeUPSILONePHIeCHIePSIeOMEGAdNABLA",
   "dSMALL ALPHAeBETAeGAMMAeDELTAeEPSILONeZETAeETAeTHETAeIOTAeKAPPAeLAMDAeMUeNUeXIeOMICRONePIeRHO",
   "eFINAL SIGMAe~eTAUeUPSILONePHIeCHIePSIeOMEGAdPARTIAL DIFFERENTIALdEPSILON SYMBOLdTHETA~dKAPPA~",
   "dPHI~dRHO~dPI~bSANS-SERIF BOLD CAPITAL ALPHAeBETAeGAMMAeDELTAeEPSILONeZETAeETAeTHETAeIOTA",
   "eKAPPAeLAMDAeMUeNUeXIeOMICRONePIeRHOeTHETA SYMBOLeSIGMAeTAUeUPSILONePHIeCHIePSIeOMEGAdNABLA",
   "dSMALL ALPHAeBETAeGAMMAeDELTAeEPSILONeZETAeETAeTHETAeIOTAeKAPPAeLAMDAeMUeNUeXIeOMICRONePIeRHO",
   "eFINAL SIGMAe~eTAUeUPSILONePHIeCHIePSIeOMEGAdPARTIAL DIFFERENTIALdEPSILON SYMBOLdTHETA~dKAPPA~",
   "dPHI~dRHO~dPI~dITALIC CAPITAL ALPHAfBETAfGAMMAfDELTAfEPSILONfZETAfETAfTHETAfIOTAfKAPPAfLAMDA",
   "fMUfNUfXIfOMICRONfPIfRHOfTHETA SYMBOLfSIGMAfTAUfUPSILONfPHIfCHIfPSIfOMEGAeNABLAeSMALL ALPHA",
   "fBETAfGAMMAfDELTAfEPSILONfZETAfETAfTHETAfIOTAfKAPPAfLAMDAfMUfNUfXIfOMICRONfPIfRHOfFINAL SIGMA",
   "f~fTAUfUPSILONfPHIfCHIfPSIfOMEGAePARTIAL DIFFERENTIALeEPSILON SYMBOLeTHETA~eKAPPA~ePHI~eRHO~",
   "ePI~bBOLD CAPITAL DIGAMMAcSMALL~@1D7CEcDIGIT ZEROdONEdTWOdTHREEdFOURdFIVEdSIXdSEVENdEIGHTdNINE",
   "bDOUBLE-STRUCK DIGIT ZEROdONEdTWOdTHREEdFOURdFIVEdSIXdSEVENdEIGHTdNINEbSANS-SERIF DIGIT ZERO",
   "dONEdTWOdTHREEdFOURdFIVEdSIXdSEVENdEIGHTdNINEcBOLD DIGIT ZEROeONEeTWOeTHREEeFOUReFIVEeSIX",
   "eSEVENeEIGHTeNINEbMONOSPACE DIGIT ZEROdONEdTWOdTHREEdFOURdFIVEdSIXdSEVENdEIGHTdNINE",
   "aSIGNWRITING HAND-FIST INDEXbHAND-CIRCLE~bHAND-CUP~bHAND-OVAL~bHAND-HINGE~bHAND-ANGLE~",
   "bHAND-FIST INDEX BENTbHAND-CIRCLE~~bHAND-FIST THUMB UNDER~~cINDEX RAISED KNUCKLEdCUPPEDdHINGED",
   "eLOWbHAND-CIRCLE INDEX HINGEbHAND-FIST INDEX MIDDLEbHAND-CIRCLE~~bHAND-FIST INDEX MIDDLE BENT",
   "eRAISED KNUCKLESeHINGEDdUP~~dHINGED MIDDLE UPdMIDDLE CONJOINEDfINDEX BENTfMIDDLE~fCUPPED",
   "fHINGEDeCROSSEDbHAND-CIRCLE~~~bHAND-FIST MIDDLE BENT OVER INDEXcINDEX BENT OVER MIDDLE",
   "dMIDDLE THUMBbHAND-CIRCLE~~~bHAND-FIST INDEX MIDDLE STRAIGHT THUMB BENTeBENT THUMB STRAIGHT",
   "eTHUMB BENTeHINGED SPREAD THUMB SIDEdUP MIDDLE HINGED~~hCONJOINEDdHINGED MIDDLE UP THUMB SIDE",
   "dMIDDLE UP SPREAD THUMB FORWARDeTHUMB CUPPEDfCIRCLEDfHOOKEDfHINGED",
   "cTHUMB BETWEEN INDEX MIDDLE STRAIGHTcINDEX MIDDLE CONJOINED THUMB SIDEhCONJOINEDhBENT",
   "cMIDDLE THUMB HOOKED INDEX UPcINDEX THUMB HOOKED MIDDLE~dMIDDLE CONJOINED HINGED THUMB SIDE",
   "eCROSSED~~eCONJOINED THUMB FORWARDfCUPPED~~cMIDDLE THUMB CUPPED INDEX UP",
   "cINDEX THUMB CUPPED MIDDLE~cMIDDLE THUMB CIRCLED INDEX~gHINGED",
   "cINDEX THUMB ANGLED OUT MIDDLE UPfIN~~eCIRCLED~~dMIDDLE THUMB CONJOINED HINGEDfANGLED OUTg",
   "cMIDDLE THUMB ANGLED OUT INDEX UPhCROSSEDfINDEX UPcINDEX THUMB HOOKED MIDDLE HINGED",
   "bHAND-FLAT FOUR FINGERSeBENTeHINGEDeCONJOINEDfSPLITbHAND-CLAW FOUR FINGERS CONJOINED",
   "bHAND-FIST FOUR FINGERS CONJOINED BENTbHAND-HINGE FOUR FINGERS CONJOINED",
   "bHAND-FLAT FIVE FINGERS SPREADcHEEL~~~cFIVE FINGERS SPREAD FOUR BENTcHEEL~~~~~",
   "cFIVE FINGERS SPREAD~cHEEL~~~~cFIVE FINGERS SPREAD THUMB FORWARDbHAND-CUP FIVE FINGERS SPREAD",
   "fOPENbHAND-HINGE~~~~bHAND-OVAL FIVE FINGERS SPREADbHAND-FLAT FIVE FINGERS SPREAD HINGED",
   "gTHUMB SIDEgNO THUMBccBETWEEN PALM FACINGScHEELcTHUMB SIDEcHEEL~~cTHUMB BENTdFORWARD",
   "cSPLIT INDEX THUMB SIDEdCENTREeTHUMB SIDEgBENTdLITTLEbHAND-CLAWcTHUMB SIDEcNO THUMB",
   "cTHUMB FORWARDbHAND-HOOK CURLICUEcbHAND-CUP OPENccOPEN THUMB SIDEc~~cOPEN NO THUMBc~~",
   "cOPEN THUMB FORWARDc~~bHAND-CURLICUE OPENcbHAND-CIRCLEbHAND-OVALcTHUMB SIDEcNO THUMB",
   "cTHUMB FORWARDbHAND-HINGE OPENdTHUMB FORWARDccSMALLcOPEN THUMB SIDEc~~cOPEN NO THUMBc~~",
   "cTHUMB SIDE TOUCHING INDEXdBETWEEN MIDDLE RINGbHAND-ANGLEbHAND-FIST INDEX MIDDLE RING",
   "bHAND-CIRCLE~~~bHAND-HINGE~~~bHAND-ANGLE~~~bHAND-HINGE LITTLEbHAND-FIST INDEX MIDDLE RING BENT",
   "fCONJOINEDbHAND-HINGE~~~~bHAND-FIST LITTLE DOWNeRIPPLE STRAIGHTfCURVEDeOTHERS CIRCLEDdUP",
   "cTHUMB UNDER~~bHAND-CIRCLE~~bHAND-OVAL~~bHAND-ANGLE~~bHAND-FIST LITTLE RAISED KNUCKLEdBENT",
   "dTOUCHES THUMBd~bHAND-HINGE~~bHAND-FIST LITTLE INDEX~bHAND-HINGE~~~",
   "bHAND-ANGLE LITTLE INDEX THUMB INDEX THUMB OUThbHAND-FIST LITTLE INDEXbHAND-CIRCLE~~",
   "bHAND-HINGE~~bHAND-ANGLE~~bHAND-FIST INDEX MIDDLE LITTLEbHAND-CIRCLE~~~bHAND-HINGE~~~cRING",
   "bHAND-ANGLE INDEX MIDDLE LITTLEbHAND-FIST INDEX MIDDLE CROSS~bHAND-CIRCLE~~~~",
   "bHAND-FIST RING DOWNbHAND-HINGE RING DOWN INDEX THUMB HOOK MIDDLE",
   "bHAND-ANGLE RING DOWN MIDDLE THUMB INDEX CROSSbHAND-FIST RING UPdRAISED KNUCKLEdLITTLE",
   "bHAND-CIRCLE~~bHAND-OVAL~~bHAND-ANGLE~~bHAND-FIST RING MIDDLEeCONJOINEDeRAISED KNUCKLESdINDEX",
   "dTHUMBbHAND-HOOK~~bHAND-FIST INDEX RING LITTLEbHAND-CIRCLE~~~",
   "bHAND-CURLICUE INDEX RING LITTLE ONbHAND-HOOK INDEX RING LITTLE OUTfINfUNDER",
   "bHAND-CUP INDEX RING LITTLEbHAND-HINGE~~~bHAND-ANGLE INDEX RING LITTLE OUTf",
   "bHAND-FIST MIDDLE DOWNbHAND-HINGE MIDDLEbHAND-FIST MIDDLE UPbHAND-CIRCLE~~",
   "bHAND-FIST MIDDLE RAISED KNUCKLEdUP THUMB SIDEbHAND-HOOK MIDDLE THUMB",
   "bHAND-FIST MIDDLE THUMB LITTLEd~dRING~bHAND-CIRCLE~~~bHAND-CURLICUE MIDDLE RING LITTLE ON",
   "bHAND-CUP MIDDLE RING LITTLEbHAND-HINGE~~~bHAND-ANGLE MIDDLE RING LITTLE OUTfINf",
   "bHAND-CIRCLE MIDDLE RING LITTLE BENTbHAND-CLAW MIDDLE RING LITTLE CONJOINEDgSIDE",
   "bHAND-HOOK MIDDLE RING LITTLE CONJOINED OUTgINgbHAND-HINGE INDEX HINGED",
   "bHAND-FIST INDEX THUMB SIDEbHAND-HINGE~~~bHAND-FIST INDEX THUMB SIDE THUMB DIAGONALgCONJOINED",
   "gBENTfINDEX~fBOTH~fINDEX HINGEeFORWARD INDEX STRAIGHTgBENTeHOOKeCURLICUEeCURVE THUMB INSIDE",
   "bHAND-CLAW~~~~~bHAND-FIST INDEX THUMB CURVE THUMB UNDEReCIRCLEbHAND-CUP INDEX THUMBeOPEN",
   "bHAND-HINGE~~~eLARGEeeSMALLbHAND-ANGLE INDEX THUMB OUTeINebHAND-FIST~dHEELdSIDE DIAGONAL",
   "eCONJOINEDeBENTdFORWARDdBETWEEN INDEX MIDDLEeMIDDLE RINGeRING LITTLEdUNDER TWO FINGERSdOVER~~",
   "dUNDER THREE~eFOUR~dOVER FOUR RAISED KNUCKLESccHEELbTOUCH SINGLEcMULTIPLEcBETWEENbGRASP SINGLE",
   "cMULTIPLEcBETWEENbSTRIKE SINGLEcMULTIPLEcBETWEENbBRUSH SINGLEcMULTIPLEcBETWEENbRUB SINGLE",
   "cMULTIPLEcBETWEENbSURFACE SYMBOLScBETWEENbSQUEEZE LARGE SINGLEcSMALL~cLARGE MULTIPLEcSMALL~",
   "cSEQUENTIALbFLICK LARGE SINGLEcSMALL~cLARGE MULTIPLEcSMALL~cSEQUENTIAL",
   "bSQUEEZE FLICK ALTERNATINGbMOVEMENT-HINGE UP DOWN LARGEeSMALLdSEQUENTIALcDOWN~",
   "cUP DOWN ALTERNATING LARGEfSMALLcSIDE TO SIDE SCISSORSbMOVEMENT-WALLPLANE FINGER CONTACT",
   "bMOVEMENT-FLOORPLANE~~bMOVEMENT-WALLPLANE SINGLE STRAIGHT SMALLeMEDIUMeLARGEeLARGEST",
   "dWRIST FLEXcDOUBLE STRAIGHTdWRIST FLEXdALTERNATINGeWRIST FLEXcCROSScTRIPLE STRAIGHT MOVEMENT",
   "dWRIST FLEXdALTERNATINGeWRIST FLEXcBEND SMALLdMEDIUMdLARGEcCORNER SMALLdMEDIUMdLARGEdROTATION",
   "cCHECK SMALLdMEDIUMdLARGEcBOX SMALLdMEDIUMdLARGEcZIGZAG SMALLdMEDIUMdLARGEcPEAKS SMALLdMEDIUM",
   "dLARGEbTRAVEL-WALLPLANE ROTATION-WALLPLANE SINGLEdDOUBLEdALTERNATING",
   "cROTATION-FLOORPLANE SINGLEdDOUBLEdALTERNATINGcSHAKINGcARM SPIRAL SINGLEeDOUBLEeTRIPLE",
   "bMOVEMENT-DIAGONAL AWAY SMALLdMEDIUMdLARGEdLARGESTcTOWARDS SMALLdMEDIUMdLARGEdLARGEST",
   "cBETWEEN AWAY SMALLeMEDIUMeLARGEeLARGESTdTOWARDS SMALLeMEDIUMeLARGEeLARGEST",
   "bMOVEMENT-FLOORPLANE SINGLE STRAIGHT SMALLeMEDIUMeLARGEeLARGESTdWRIST FLEXcDOUBLE STRAIGHT",
   "dWRIST FLEXdALTERNATINGeWRIST FLEXcCROSScTRIPLE STRAIGHT MOVEMENTdWRIST FLEX",
   "dALTERNATING MOVEMENTeWRIST FLEXcBENDcCORNER SMALLdMEDIUMdLARGEcCHECKcBOX SMALLdMEDIUMdLARGE",
   "cZIGZAG SMALLdMEDIUMdLARGEcPEAKS SMALLdMEDIUMdLARGE",
   "bTRAVEL-FLOORPLANE ROTATION-FLOORPLANE SINGLEdDOUBLEdALTERNATINGcROTATION-WALLPLANE SINGLE",
   "dDOUBLEdALTERNATINGcSHAKINGbMOVEMENT-WALLPLANE CURVE QUARTER SMALLeMEDIUMeLARGEeLARGEST",
   "dHALF-CIRCLE SMALLeMEDIUMeLARGEeLARGESTdTHREE-QUARTER CIRCLE SMALLfMEDIUMcHUMP SMALLdMEDIUM",
   "dLARGEcLOOP SMALLdMEDIUMdLARGEdSMALL DOUBLEcWAVE CURVE DOUBLE SMALLfMEDIUMfLARGEeTRIPLE SMALL",
   "fMEDIUMfLARGEcCURVE THEN STRAIGHTcCURVED CROSS SMALLeMEDIUMbROTATION-WALLPLANE SINGLEcDOUBLE",
   "cALTERNATEbMOVEMENT-WALLPLANE SHAKINGcCURVE HITTING FRONT WALLcHUMP~~~cLOOP~~~cWAVE~~~",
   "bROTATION-WALLPLANE SINGLE~~~cDOUBLE~~~cALTERNATING~~~bMOVEMENT-WALLPLANE CURVE HITTING CHEST",
   "cHUMP~~cLOOP~~cWAVE~~bROTATION-WALLPLANE SINGLE~~cDOUBLE~~cALTERNATING~~",
   "bMOVEMENT-WALLPLANE WAVE DIAGONAL PATH SMALLfMEDIUMfLARGE",
   "bMOVEMENT-FLOORPLANE CURVE HITTING CEILING SMALLfLARGEcHUMP HITTING CEILING SMALL DOUBLE",
   "fLARGE~fSMALL TRIPLEfLARGE~cLOOP HITTING CEILING SMALL SINGLEfLARGE~fSMALL DOUBLEfLARGE~",
   "cWAVE HITTING CEILING SMALLfLARGEbROTATION-FLOORPLANE SINGLE HITTING CEILINGcDOUBLE~~",
   "cALTERNATING~~bMOVEMENT-FLOORPLANE CURVE HITTING FLOOR SMALLfLARGE",
   "cHUMP HITTING FLOOR SMALL DOUBLEfLARGE~fTRIPLE SMALL TRIPLEgLARGE~",
   "cLOOP HITTING FLOOR SMALL SINGLEfLARGE~fSMALL DOUBLEfLARGE~cWAVE HITTING FLOOR SMALLfLARGE",
   "bROTATION-FLOORPLANE SINGLE HITTING FLOORcDOUBLE~~cALTERNATING~~",
   "bMOVEMENT-FLOORPLANE CURVE SMALLdMEDIUMdLARGEdLARGESTdCOMBINEDcHUMP SMALLcLOOP~cWAVE SNAKE",
   "dSMALLdLARGEbROTATION-FLOORPLANE SINGLEcDOUBLEcALTERNATING",
   "bMOVEMENT-FLOORPLANE SHAKING PARALLELbMOVEMENT-WALLPLANE ARM CIRCLE SMALL SINGLEeMEDIUM~",
   "eSMALL DOUBLEeMEDIUM~bMOVEMENT-FLOORPLANE ARM CIRCLE HITTING WALL SMALL SINGLEgMEDIUM~gLARGE~",
   "gSMALL DOUBLEgMEDIUM~gLARGE~bMOVEMENT-WALLPLANE WRIST CIRCLE FRONT SINGLEfDOUBLE",
   "bMOVEMENT-FLOORPLANE WRIST CIRCLE HITTING WALL SINGLEgDOUBLE",
   "bMOVEMENT-WALLPLANE FINGER CIRCLES SINGLEeDOUBLE",
   "bMOVEMENT-FLOORPLANE FINGER CIRCLES HITTING WALL SINGLEgDOUBLEbDYNAMIC ARROWHEAD SMALLdLARGE",
   "cFASTcSLOWcTENSEcRELAXEDcSIMULTANEOUSdALTERNATINGcEVERY OTHER TIMEcGRADUALbHEADcRIM",
   "cMOVEMENT-WALLPLANE STRAIGHTdTILTcMOVEMENT-FLOORPLANE STRAIGHTcMOVEMENT-WALLPLANE CURVE",
   "cMOVEMENT-FLOORPLANE~cMOVEMENT CIRCLEbFACE DIRECTION POSITION NOSE FORWARD TILTINGfUP OR DOWN",
   "iTILTINGbEYEBROWS STRAIGHT UPdNEUTRALdDOWNbDREAMY EYEBROWS NEUTRAL~dDOWN NEUTRALdUP~",
   "dNEUTRAL UPbFOREHEAD NEUTRALcCONTACTcWRINKLEDbEYES OPENcSQUEEZEDcCLOSEDbEYE BLINK SINGLE",
   "dMULTIPLEbEYES HALF OPENcWIDE~cHALF CLOSEDcWIDENING MOVEMENTbEYE WINKbEYELASHES UPcDOWN",
   "cFLUTTERINGbEYEGAZE-WALLPLANE STRAIGHTdDOUBLEdALTERNATINGbEYEGAZE-FLOORPLANE STRAIGHTdDOUBLE",
   "dALTERNATINGbEYEGAZE-WALLPLANE CURVEDbEYEGAZE-FLOORPLANE~bEYEGAZE-WALLPLANE CIRCLING",
   "bCHEEKS PUFFEDcNEUTRALcSUCKEDbTENSE CHEEKS HIGHdMIDDLEdLOWbEARSbNOSE NEUTRALcCONTACTcWRINKLES",
   "cWIGGLESbAIR BLOWING OUTcSUCKING INcBLOW SMALL ROTATIONScSUCK~~bBREATH INHALEcEXHALE",
   "bMOUTH CLOSED NEUTRALdFORWARDdCONTACTcSMILEdWRINKLEDdOPENcFROWNdWRINKLEDdOPENcOPEN CIRCLE",
   "dFORWARDdWRINKLEDdOVALeWRINKLEDeYAWNdRECTANGLEeWRINKLEDeYAWNcKISSdFORWARDdWRINKLEDcTENSE",
   "dFORWARDdSUCKEDbLIPS PRESSED TOGETHERbLIP LOWER OVER UPPERcUPPER OVER LOWERbMOUTH CORNERS",
   "cWRINKLES SINGLEdDOUBLEbTONGUE STICKING OUT FARcLICKING LIPScTIP BETWEEN~",
   "dTOUCHING INSIDE MOUTHcINSIDE MOUTH RELAXEDcMOVES AGAINST CHEEKcCENTRE STICKING OUT",
   "dINSIDE MOUTHbTEETHcMOVEMENTcON TONGUEeMOVEMENTdLIPSeMOVEMENTcBITE LIPSbMOVEMENT-WALLPLANE JAW",
   "bMOVEMENT-FLOORPLANE~bNECKbHAIRbEXCITEMENTbSHOULDER HIP SPINEdPOSITIONS",
   "bWALLPLANE SHOULDER HIP MOVEbFLOORPLANE~~~bSHOULDER TILTING FROM WAIST",
   "bTORSO-WALLPLANE STRAIGHT STRETCHcCURVED BENDbTORSO-FLOORPLANE TWISTING",
   "bUPPER BODY TILTING FROM HIP JOINTSbLIMB COMBINATIONcLENGTH-1+6bFINGER",
   "bLOCATION-WALLPLANE SPACEbLOCATION-FLOORPLANE~bLOCATION HEIGHTcWIDTHcDEPTHcHEAD NECKcTORSO",
   "cLIMBS DIGITSbCOMMAbFULL STOPbSEMICOLONbCOLONbPARENTHESIS@1DA9BbFILL MODIFIER-2+4@1DAA1",
   "bROTATION MODIFIER-2+14@1DF00aLATIN SMALL LETTER FENG DIGRAPH WITH TRILLdREVERSED SCRIPT G",
   "bLETTER SMALL CAPITAL TURNED~bSMALL LETTER REVERSED KbLETTER SMALL CAPITAL L WITH BELT",
   "bSMALL LETTER LEZH WITH RETROFLEX HOOKdTURNED Y WITH BELTdREVERSED ENG",
   "dTURNED R WITH LONG LEG AND RETROFLEX HOOKdT WITH HOOK~~~bLETTER RETROFLEX CLICK WITH~~",
   "bSMALL LETTER ESH WITH DOUBLE BARhAND CURLdTURNED T WITH~bLETTER INVERTED GLOTTAL STOP~~",
   "cSTRETCHED C~~cSMALL CAPITAL TURNED KbSMALL LETTER L WITH FISHHOOK",
   "dDEZH DIGRAPH WITH PALATAL HOOKdL WITH BELT AND~~dENG WITH~~dTURNED R~~~dR WITH FISHHOOK AND~~",
   "dTESH DIGRAPH WITH~~dEZH~~~dDEZH DIGRAPH WITH RETROFLEX~dI WITH STROKE AND~~dO WITH~~",
   "dTESH DIGRAPH~~~dC~~~dS WITH CURL@1DF25dD WITH MID-HEIGHT LEFT HOOKdL~~~~dN~~~~dR~~~~dS~~~~",
   "dT~~~~@1E000aCOMBINING GLAGOLITIC LETTER AZUdBUKYdVEDEdGLAGOLIdDOBROdYESTUdZHIVETE@1E008",
   "dZEMLJAdIZHEdINITIAL~dIdDJERVIdKAKOdLJUDIJEdMYSLITEdNASHIdONUdPOKOJIdRITSIdSLOVOdTVRIDOdUKU",
   "dFRITUdHERU@1E01BdSHTAdTSIdCHRIVIdSHAdYERUdYERIdYATI@1E023dYUdSMALL YUS@1E026dYO",
   "dIOTATED SMALL YUSdBIG~dIOTATED~~dFITA@1E030aMODIFIER LETTER CYRILLIC SMALL AeBEeVEeGHEeDEeIE",
   "eZHEeZEeIeKAeELeEMeOePEeEReESeTEeUeEFeHAeTSEeCHEeSHAeYERUeEeYUeDZZEeSCHWA",
   "eBYELORUSSIAN-UKRAINIAN IeJEeBARRED OeSTRAIGHT UePALOCHKAaCYRILLIC SUBSCRIPT SMALL LETTER AeBE",
   "eVEeGHEeDEeIEeZHEeZEeIeKAeELeOePEeESeUeEFeHAeTSEeCHEeSHAeHARD SIGNeYERUeGHE WITH UPTURN",
   "eBYELORUSSIAN-UKRAINIAN IeDZEeDZHEaMODIFIER LETTER CYRILLIC SMALL ES WITH DESCENDER",
   "eYERU WITH BACK YEReSTRAIGHT U WITH STROKE@1E08F",
   "aCOMBINING CYRILLIC SMALL LETTER BYELORUSSIAN-UKRAINIAN I@1E100",
   "aNYIAKENG PUACHUE HMONG LETTER MAeTSAeNTAeTAeHAeNAeXAeNKAeCAeLAeSAeZAeNCAeNTSAeKAeDAeNYAeNRA",
   "eVAeNTXAeTXAeFAeRAeQAeYAeNQAePAeXYAeNPAeDLAeNPLAeHAHeMLAePLAeGAeRRAeAeAAeIeUeOeOOeEeEEeW@1E130",
   "dTONE-BdTONE-MdTONE-JdTONE-VdTONE-SdTONE-GdTONE-DdSIGN FOR PERSONfTHINGfLOCATIONfANIMAL",
   "fINVERTEBRATEeXW XWdSYLLABLE LENGTHENER@1E140dDIGIT ZEROeONEeTWOeTHREEeFOUReFIVEeSIXeSEVEN",
   "eEIGHTeNINE@1E14EdLOGOGRAM NYAJdCIRCLED CA@1E290aTOTO LETTER PAcBAcTAcDAcKAcGAcMAcNAcNGAcSA",
   "cCHAcYAcWAcJAcHAcRAcLAcIcBREATHY~cIUcBREATHY~cUcEcBREATHY~cEOcBREATHY~cOcAEcBREATHY~cA",
   "bSIGN RISING TONE@1E2C0aWANCHO LETTER AAcAcBAcCAcDAcGAcYAcPHAcLAcNAcPAcTAcTHAcFAcSAcSHAcJAcZA",
   "cWAcVAcKAcOcAUcRAcMAcKHAcHAcEcIcNGAcUcLLHAcTSAcTRAcONGcAANGcANGcINGcONcENcAANcNYAcUENcYIH",
   "bTONE TUPcTUPNIcKOIcKOINIbDIGIT ZEROcONEcTWOcTHREEcFOURcFIVEcSIXcSEVENcEIGHTcNINE@1E2FF",
   "bNGUN SIGN@1E4D0aNAG MUNDARI LETTER OdOPdOLdOYdONGdAdAJdABdANYdAHdIdISdIDDdITdIHdUdUCdUDdUKdUR",
   "dEdENNdEGdEMdENdETTdELLcSIGN OJODdMUHORdTOYORdIKIRdSUTUHcDIGIT ZEROdONEdTWOdTHREEdFOURdFIVE",
   "dSIXdSEVENdEIGHTdNINE@1E7E0aETHIOPIC SYLLABLE HHYAcHHYUcHHYIcHHYAAcHHYEEcHHYEcHHYO@1E7E8",
   "cGURAGE HHWAcHHWIcHHWEEcHHWE@1E7EDcGURAGE MWIdMWEE@1E7F0dQWIdQWEEdQWEdBWIdBWEEdKWIdKWEEdKWE",
   "dGWIdGWEEdGWEdFWIdFWEEdPWIdPWEE@1E800aMENDE KIKAKUI SYLLABLE M001 KIdM002 KAdM003 KUdM065 KEE",
   "dM095 KEdM076 KOOdM048 KOdM179 KUAdM004 WIdM005 WAdM006 WUdM126 WEEdM118 WEdM114 WOOdM045 WO",
   "dM194 WUIdM143 WEIdM061 WVIdM049 WVAdM139 WVEdM007 MINdM008 MANdM009 MUNdM059 MENdM094 MON",
   "dM154 MUANdM189 MUENdM010 BIdM011 BAdM012 BUdM150 BEEdM097 BEdM103 BOOdM138 BOdM013 IdM014 A",
   "dM015 UdM163 EEdM100 EdM165 OOdM147 OdM137 EIdM131 INdM135~dM195 ANdM178 ENdM019 SIdM020 SA",
   "dM021 SUdM162 SEEdM116 SEdM136 SOOdM079 SOdM196 SIAdM025 LIdM026 LAdM027 LUdM084 LEEdM073 LE",
   "dM054 LOOdM153 LOdM110 LONG LEdM016 DIdM017 DAdM018 DUdM089 DEEdM180 DOOdM181 DOdM022 TI",
   "dM023 TAdM024 TUdM091 TEEdM055 TEdM104 TOOdM069 TOdM028 JIdM029 JAdM030 JUdM157 JEEdM113 JE",
   "dM160 JOOdM063 JOdM175 LONG~dM031 YIdM032 YAdM033 YUdM109 YEEdM080 YEdM141 YOOdM121 YOdM034 FI",
   "dM035 FAdM036 FUdM078 FEEdM075 FEdM133 FOOdM088 FOdM197 FUAdM101 FANdM037 NINdM038 NAN",
   "dM039 NUNdM117 NENdM169 NONdM176 HIdM041 HAdM186 HUdM040 HEEdM096 HEdM042 HOOdM140 HO",
   "dM083 HEEIdM128 HOOUdM053 HINdM130 HANdM087 HUNdM052 HENdM193 HONdM046 HUANdM090 NGGI",
   "dM043 NGGAdM082 NGGUdM115 NGGEEdM146 NGGEdM156 NGGOOdM120 NGGOdM159 NGGAAdM127 NGGUA",
   "dM086 LONG NGGEdM106 LONG NGGOOdM183 LONG NGGOdM155 GIdM111 GAdM168 GUdM190 GEEdM166 GUEI",
   "dM167 GUANdM184 NGENdM057 NGONdM177 NGUANdM068 PIdM099 PAdM050 PUdM081 PEEdM051 PEdM102 POO",
   "dM066 POdM145 MBIdM062 MBAdM122 MBUdM047 MBEEdM188~dM072 MBEdM172 MBOOdM174 MBOdM187 MBUU",
   "dM161 LONG MBEdM105 LONG MBOOdM142 LONG MBOdM132 KPIdM092 KPAdM074 KPUdM044 KPEEdM108 KPE",
   "dM112 KPOOdM158 KPOdM124 GBIdM056 GBAdM148 GBUdM093 GBEEdM107 GBEdM071 GBOOdM070 GBOdM171 RA",
   "dM123 NDIdM129 NDAdM125 NDUdM191 NDEEdM119 NDEdM067 NDOOdM064 NDOdM152 NJAdM192 NJUdM149 NJEE",
   "dM134 NJOOdM182 VIdM185 VAdM151 VUdM173 VEEdM085 VEdM144 VOOdM077 VOdM164 NYINdM058 NYAN",
   "dM170 NYUNdM098 NYENdM060 NYON@1E8C7cDIGIT ONEdTWOdTHREEdFOURdFIVEdSIXdSEVENdEIGHTdNINE",
   "cCOMBINING NUMBER TEENSeTENSeHUNDREDSeTHOUSANDSeTEN~eHUNDRED~eMILLIONS@1E900",
   "aADLAM CAPITAL LETTER ALIFdDAALIdLAAMdMIIMdBAdSINNYIIYHEdPEdBHEdRAdEdFAdIdOdDHAdYHEdWAWdNUN",
   "dKAFdYAdUdJIIMdCHIdHAdQAAFdGAdNYAdTUdNHAdVAdKHAdGBEdZALdKPOdSHAbSMALL LETTER ALIFdDAALIdLAAM",
   "dMIIMdBAdSINNYIIYHEdPEdBHEdRAdEdFAdIdOdDHAdYHEdWAWdNUNdKAFdYAdUdJIIMdCHIdHAdQAAFdGAdNYAdTUdNHA",
   "dVAdKHAdGBEdZALdKPOdSHAbALIF LENGTHENERbVOWEL~bGEMINATION MARKbHAMZAbCONSONANT MODIFIER",
   "bGEMINATE~~bNUKTAbNASALIZATION MARK@1E950bDIGIT ZEROcONEcTWOcTHREEcFOURcFIVEcSIXcSEVENcEIGHT",
   "cNINE@1E95EbINITIAL EXCLAMATION MARKcQUESTION~@1EC71aINDIC SIYAQ NUMBER ONEdTWOdTHREEdFOUR",
   "dFIVEdSIXdSEVENdEIGHTdNINEdTENdTWENTYdTHIRTYdFORTYdFIFTYdSIXTYdSEVENTYdEIGHTYdNINETY",
   "dONE HUNDREDdTWO~dTHREE~dFOUR~dFIVE~dSIX~dSEVEN~dEIGHT~dNINE~dONE THOUSANDdTWO~dTHREE~dFOUR~",
   "dFIVE~dSIX~dSEVEN~dEIGHT~dNINE~dTEN~dTWENTY~dTHIRTY~dFORTY~dFIFTY~dSIXTY~dSEVENTY~dEIGHTY~",
   "dNINETY~dLAKHdLAKHANcLAKH MARKcNUMBER KARORdKARORANdPREFIXED ONEeTWOeTHREEeFOUReFIVEeSIXeSEVEN",
   "eEIGHTeNINEcPLACEHOLDERcFRACTION ONE QUARTEReHALFdTHREE QUARTERScRUPEE MARK",
   "cNUMBER ALTERNATE ONEeTWOeTEN THOUSANDcALTERNATE LAKH MARK@1ED01aOTTOMAN SIYAQ NUMBER ONEdTWO",
   "dTHREEdFOURdFIVEdSIXdSEVENdEIGHTdNINEdTENdTWENTYdTHIRTYdFORTYdFIFTYdSIXTYdSEVENTYdEIGHTY",
   "dNINETYdONE HUNDREDdTWO~dTHREE~dFOUR~dFIVE~dSIX~dSEVEN~dEIGHT~dNINE~dONE THOUSANDdTWO~dTHREE~",
   "dFOUR~dFIVE~dSIX~dSEVEN~dEIGHT~dNINE~dTEN~dTWENTY~dTHIRTY~dFORTY~dFIFTY~dSIXTY~dSEVENTY~",
   "dEIGHTY~dNINETY~cMARRATANcALTERNATE NUMBER TWOeTHREEeFOUReFIVEeSIXeSEVENeEIGHTeNINEeTEN",
   "eFOUR HUNDREDeSIX~eTWO THOUSANDeTEN~cFRACTION ONE HALFeSIXTH@1EE00aARABIC MATHEMATICAL ALEF",
   "cBEHcJEEMcDAL@1EE05cWAWcZAINcHAHcTAHcYEHcKAFcLAMcMEEMcNOONcSEENcAINcFEHcSADcQAFcREHcSHEENcTEH",
   "cTHEHcKHAHcTHALcDADcZAHcGHAINcDOTLESS BEHdNOONdFEHdQAF@1EE21cINITIAL BEHdJEEM@1EE24dHEH@1EE27",
   "dHAH@1EE29dYEHdKAFdLAMdMEEMdNOONdSEENdAINdFEHdSADdQAF@1EE34dSHEENdTEHdTHEHdKHAH@1EE39dDAD",
   "@1EE3BdGHAIN@1EE42cTAILED JEEM@1EE47dHAH@1EE49dYEH@1EE4BdLAM@1EE4DdNOONdSEENdAIN@1EE51dSADdQAF",
   "@1EE54dSHEEN@1EE57dKHAH@1EE59dDAD@1EE5BdGHAIN@1EE5DdDOTLESS NOON@1EE5FeQAF@1EE61cSTRETCHED BEH",
   "dJEEM@1EE64dHEH@1EE67dHAHdTAHdYEHdKAF@1EE6CdMEEMdNOONdSEENdAINdFEHdSADdQAF@1EE74dSHEENdTEH",
   "dTHEHdKHAH@1EE79dDADdZAHdGHAINdDOTLESS BEH@1EE7EeFEH@1EE80cLOOPED ALEFdBEHdJEEMdDALdHEHdWAW",
   "dZAINdHAHdTAHdYEH@1EE8BdLAMdMEEMdNOONdSEENdAINdFEHdSADdQAFdREHdSHEENdTEHdTHEHdKHAHdTHALdDAD",
   "dZAHdGHAIN@1EEA1cDOUBLE-STRUCK BEHdJEEMdDAL@1EEA5dWAWdZAINdHAHdTAHdYEH@1EEABdLAMdMEEMdNOON",
   "dSEENdAINdFEHdSADdQAFdREHdSHEENdTEHdTHEHdKHAHdTHALdDADdZAHdGHAIN@1EEF0",
   "cOPERATOR MEEM WITH HAH WITH TATWEELdHAH WITH DAL"]

end ClassSchema.Text.CharacterName
